import ResilientMessenger.Core.Mailbox
import ResilientMessenger.Server.Redelivery

/-!
# One-time key packages and Welcomes

Publications, uploads and fetches run next to each other.  A key package and a
Welcome are items of a mailbox: both fetches lock what they return with
`FOR UPDATE SKIP LOCKED` and mark it as consumed before they commit, and both
insertions ignore an identifier that is taken.  An uploaded Welcome becomes
visible when its transaction commits; until then another upload of the same
identifier waits.
-/

namespace ResilientMessenger.OneTimeItems

open ResilientMessenger.ByteCodec
open ResilientMessenger.Schema
open ResilientMessenger.Backend
open ResilientMessenger.Transaction
open ResilientMessenger.Runs

/-! ## The two mailboxes -/

structure PackageRequest where
  targetDeviceId : Id16
  startedAt : Time

structure WelcomeRequest where
  targetDeviceId : Id16
  limit : ℤ
  startedAt : Time

/-- `SELECT … WHERE device_id=$1 AND consumed_at IS NULL ORDER BY created_at
FOR UPDATE SKIP LOCKED LIMIT 1`. -/
def packageHandout : Mailbox.Handout KeyPackageRow.packageId PackageRequest
    (Id16 × Bytes × Time) where
  consumed row := row.consumedAt.isSome
  content row := (row.deviceId, row.package, row.createdAt)
  eligible request row := row.deviceId = request.targetDeviceId
  select _ rows := Paging.pageOf KeyPackageRow.createdAt 1 rows
  consume request row := { row with consumedAt := some request.startedAt }
  key_consume _ _ := rfl
  content_consume _ _ := rfl
  consumed_consume _ _ := rfl
  select_subperm _ rows := Paging.pageOf_subperm _ 1 rows

/-- `SELECT … WHERE target_device_id=$1 AND consumed_at IS NULL AND
expires_at>now() ORDER BY expires_at LIMIT $2 FOR UPDATE SKIP LOCKED`. -/
def welcomeHandout : Mailbox.Handout WelcomeRow.welcomeId WelcomeRequest
    (Id16 × Id16 × Bytes × Time) where
  consumed row := row.consumedAt.isSome
  content row := (row.targetDeviceId, row.groupId, row.welcome, row.expiresAt)
  eligible request row :=
    row.targetDeviceId = request.targetDeviceId ∧ request.startedAt < row.expiresAt
  select request rows :=
    Paging.pageOf WelcomeRow.expiresAt (batchSize request.limit) rows
  consume request row := { row with consumedAt := some request.startedAt }
  key_consume _ _ := rfl
  content_consume _ _ := rfl
  consumed_consume _ _ := rfl
  select_subperm request rows :=
    Paging.pageOf_subperm _ (batchSize request.limit) rows

/-! ## Calls next to each other -/

/-- How far the transaction of an upload has come, and whether its `INSERT`
wrote a row. -/
inductive UploadProgress where
  | started
  | admitted
  | targetKnown
  | written (inserted : Bool)
  deriving DecidableEq

structure Upload where
  transaction : ℕ
  startedAt : Time
  authorDeviceId : Id16
  targetDeviceId : Id16
  groupId : Id16
  welcomeId : Id16
  welcome : Bytes
  progress : UploadProgress
  deriving DecidableEq

def Upload.row (upload : Upload) : WelcomeRow where
  welcomeId := upload.welcomeId
  targetDeviceId := upload.targetDeviceId
  groupId := upload.groupId
  welcome := upload.welcome
  expiresAt := upload.startedAt + seconds eventTtlSeconds
  consumedAt := none

/-- `db` holds what is committed, `answers` what publications and uploads have
returned. -/
structure System where
  db : Database
  packages : Mailbox.Desk KeyPackageRow PackageRequest
  welcomes : Mailbox.Desk WelcomeRow WelcomeRequest
  uploads : Table Upload.transaction
  answers : List (Except ApiError Unit)

/-- Other transactions may do anything but write to the two mailboxes. -/
inductive Label where
  | publishKeyPackage (now : Time) (deviceId packageId : Id16) (package : Bytes)
  | fetchKeyPackage (label : Mailbox.Label PackageRequest)
  | fetchWelcomes (label : Mailbox.Label WelcomeRequest)
  | startUpload (upload : Upload)
  | proceedUpload (transaction : ℕ)
  | abortUpload (transaction : ℕ)
  | others (db : Database)

namespace System

def initial (db : Database) : System :=
  ⟨db, Mailbox.Desk.initial, Mailbox.Desk.initial, Table.empty, []⟩

def packageMailbox (system : System) :
    Mailbox.State KeyPackageRow.packageId PackageRequest :=
  { system.packages with stored := system.db.keyPackages }

def welcomeMailbox (system : System) :
    Mailbox.State WelcomeRow.welcomeId WelcomeRequest :=
  { system.welcomes with stored := system.db.welcomeMailbox }

def withPackages (system : System)
    (mailbox : Mailbox.State KeyPackageRow.packageId PackageRequest) : System :=
  { system with
    db := { system.db with keyPackages := mailbox.stored }
    packages := mailbox.toDesk }

def withWelcomes (system : System)
    (mailbox : Mailbox.State WelcomeRow.welcomeId WelcomeRequest) : System :=
  { system with
    db := { system.db with welcomeMailbox := mailbox.stored }
    welcomes := mailbox.toDesk }

def publish (system : System) (now : Time) (deviceId packageId : Id16)
    (package : Bytes) : System :=
  let outcome := publishKeyPackage now deviceId packageId package system.db
  { system with
    db := outcome.2
    answers := system.answers ++ [outcome.1] }

/-- A Welcome of the wrong size is refused before the transaction. -/
def startUpload (system : System) (upload : Upload) : System :=
  if upload.welcome = [] ∨ 65536 < upload.welcome.length then
    { system with answers := system.answers ++ [.error .invalidInput] }
  else
    { system with
      uploads := system.uploads.insertOrIgnore { upload with progress := .started } }

def reachUpload (system : System) (transaction : ℕ) (progress : UploadProgress) :
    System :=
  { system with
    uploads := system.uploads.modify transaction (fun _ => true)
      (fun upload => { upload with progress }) fun _ => rfl }

def finishUpload (system : System) (transaction : ℕ)
    (result : Except ApiError Unit) : System :=
  { system with
    uploads := system.uploads.erase transaction
    answers := system.answers ++ [result] }

/-- Another transaction has inserted the identifier and not yet committed. -/
def insertionPending (system : System) (upload : Upload) : Bool :=
  system.uploads.rows.any fun other =>
    other.transaction ≠ upload.transaction ∧ other.welcomeId = upload.welcomeId ∧
      other.progress = .written true

/-- The next statement of `upload_welcome`. -/
def proceedUpload (system : System) (upload : Upload) : System :=
  match upload.progress with
  | .started =>
      match assertActiveMember upload.groupId upload.authorDeviceId system.db with
      | .ok _ => system.reachUpload upload.transaction .admitted
      | .error failure => system.finishUpload upload.transaction (.error failure)
  | .admitted =>
      if (system.db.groupMembers.lookup
          (upload.groupId, upload.targetDeviceId)).isNone then
        system.finishUpload upload.transaction (.error .unauthorized)
      else system.reachUpload upload.transaction .targetKnown
  | .targetKnown =>
      if (system.db.welcomeMailbox.lookup upload.welcomeId).isSome then
        system.reachUpload upload.transaction (.written false)
      else if system.insertionPending upload then system
      else if system.db.hasDevice upload.targetDeviceId &&
          system.db.hasGroup upload.groupId then
        system.reachUpload upload.transaction (.written true)
      else system.finishUpload upload.transaction (.error .database)
  | .written inserted =>
      { system with
        db := { system.db with
          welcomeMailbox :=
            if inserted then system.db.welcomeMailbox.insertOrIgnore upload.row
            else system.db.welcomeMailbox } }.finishUpload
        upload.transaction (.ok ())

end System

def step (system : System) : Label → System
  | .publishKeyPackage now deviceId packageId package =>
      system.publish now deviceId packageId package
  | .fetchKeyPackage label =>
      system.withPackages (Mailbox.step packageHandout system.packageMailbox label)
  | .fetchWelcomes label =>
      system.withWelcomes (Mailbox.step welcomeHandout system.welcomeMailbox label)
  | .startUpload upload => system.startUpload upload
  | .proceedUpload transaction =>
      match system.uploads.lookup transaction with
      | none => system
      | some upload => system.proceedUpload upload
  | .abortUpload transaction =>
      match system.uploads.lookup transaction with
      | none => system
      | some _ => system.finishUpload transaction (.error .database)
  | .others db =>
      { system with
        db := { db with
          keyPackages := system.db.keyPackages
          welcomeMailbox := system.db.welcomeMailbox } }

/-! ## What the calls are for -/

/-- The device publishes the package under an identifier that nothing is stored
under. -/
def PublishesFirst (row : KeyPackageRow) (system : System) (label : Label) :
    Prop :=
  system.db.keyPackages.lookup row.packageId = none ∧
    ∃ now, label = .publishKeyPackage now row.deviceId row.packageId row.package

/-- The upload commits the Welcome under an identifier that nothing is stored
under. -/
def UploadsFirst (row : WelcomeRow) (system : System) (label : Label) : Prop :=
  system.db.welcomeMailbox.lookup row.welcomeId = none ∧
    ∃ transaction upload, label = .proceedUpload transaction ∧
      system.uploads.lookup transaction = some upload ∧
      upload.progress = .written true ∧
      upload.targetDeviceId = row.targetDeviceId ∧
      upload.groupId = row.groupId ∧ upload.welcomeId = row.welcomeId ∧
      upload.welcome = row.welcome

/-- The package stood in the mailbox from the start or was the first to be
published under its identifier. -/
def FirstPackage (db : Database) (labels : List Label) (row : KeyPackageRow) :
    Prop :=
  (∃ stored, db.keyPackages.lookup row.packageId = some stored ∧
      stored.deviceId = row.deviceId ∧ stored.package = row.package) ∨
    Once step (PublishesFirst row) (System.initial db) labels

/-- The Welcome stood in the mailbox from the start or was the first to be
uploaded under its identifier. -/
def FirstWelcome (db : Database) (labels : List Label) (row : WelcomeRow) : Prop :=
  (∃ stored, db.welcomeMailbox.lookup row.welcomeId = some stored ∧
      stored.targetDeviceId = row.targetDeviceId ∧ stored.groupId = row.groupId ∧
      stored.welcome = row.welcome) ∨
    Once step (UploadsFirst row) (System.initial db) labels

/-- What holds of everything that was returned in a run. -/
structure Sound (db : Database) (labels : List Label) (system : System) :
    Prop where
  packagesOnce : ((system.packages.returned.flatMap Mailbox.Answer.rows).map
    KeyPackageRow.packageId).Nodup
  welcomesOnce : ((system.welcomes.returned.flatMap Mailbox.Answer.rows).map
    WelcomeRow.welcomeId).Nodup
  packagesOwned : ∀ answer ∈ system.packages.returned, ∀ row ∈ answer.rows,
    row.deviceId = answer.request.targetDeviceId
  welcomesOwned : ∀ answer ∈ system.welcomes.returned, ∀ row ∈ answer.rows,
    row.targetDeviceId = answer.request.targetDeviceId
  packagesGenuine : ∀ answer ∈ system.packages.returned, ∀ row ∈ answer.rows,
    FirstPackage db labels row
  welcomesGenuine : ∀ answer ∈ system.welcomes.returned, ∀ row ∈ answer.rows,
    FirstWelcome db labels row

/-- A consumed package and a consumed Welcome stay consumed. -/
structure StaysConsumed (earlier later : System) : Prop where
  packages : ∀ packageId row, earlier.db.keyPackages.lookup packageId = some row →
    row.consumedAt.isSome = true →
      ∃ latest, later.db.keyPackages.lookup packageId = some latest ∧
        latest.consumedAt.isSome = true
  welcomes : ∀ welcomeId row,
    earlier.db.welcomeMailbox.lookup welcomeId = some row →
    row.consumedAt.isSome = true →
      ∃ latest, later.db.welcomeMailbox.lookup welcomeId = some latest ∧
        latest.consumedAt.isSome = true

/-! ## What a step does to the mailboxes -/

/-- A publication stores the package or changes nothing. -/
theorem publishKeyPackage_cases (now : Time) (deviceId packageId : Id16)
    (package : Bytes) (db : Database) :
    (publishKeyPackage now deviceId packageId package db).2 = db ∨
      db.keyPackages.lookup packageId = none ∧
        (publishKeyPackage now deviceId packageId package db).2 =
          { db with
            keyPackages := db.keyPackages.insertOrIgnore
              ⟨packageId, deviceId, package, none, now⟩ } := by
  unfold publishKeyPackage
  split
  · exact .inl rfl
  split
  · exact .inl rfl
  split
  case h_1 keyPackages hinsert =>
    refine .inr ⟨(Table.insert?_eq_some_iff.mp hinsert).1, ?_⟩
    rw [Table.insertOrIgnore, hinsert]
    rfl
  case h_2 => exact .inl rfl

/-- An upload stores its Welcome when it commits after it has inserted it, and
touches neither mailbox otherwise. -/
theorem proceedUpload_cases (system : System) (upload : Upload) :
    (system.proceedUpload upload).packageMailbox = system.packageMailbox ∧
      ((system.proceedUpload upload).welcomeMailbox = system.welcomeMailbox ∨
        upload.progress = .written true ∧
          (system.proceedUpload upload).welcomeMailbox =
            system.welcomeMailbox.insert upload.row) := by
  unfold System.proceedUpload
  cases hprogress : upload.progress with
  | started =>
      dsimp only
      split <;> exact ⟨rfl, .inl rfl⟩
  | admitted =>
      dsimp only
      split <;> exact ⟨rfl, .inl rfl⟩
  | targetKnown =>
      dsimp only
      split
      · exact ⟨rfl, .inl rfl⟩
      split
      · exact ⟨rfl, .inl rfl⟩
      split <;> exact ⟨rfl, .inl rfl⟩
  | written inserted =>
      cases inserted with
      | false => exact ⟨rfl, .inl rfl⟩
      | true => exact ⟨rfl, .inr ⟨rfl, rfl⟩⟩

/-- A step leaves the package mailbox alone, is a step of a fetch or stores a
package under a new identifier. -/
theorem packages_cases (system : System) (label : Label) :
    (step system label).packageMailbox = system.packageMailbox ∨
      (∃ fetch, (step system label).packageMailbox =
        Mailbox.step packageHandout system.packageMailbox fetch) ∨
      ∃ row, PublishesFirst row system label ∧
        (step system label).packageMailbox = system.packageMailbox.insert row := by
  cases label with
  | publishKeyPackage now deviceId packageId package =>
      rcases publishKeyPackage_cases now deviceId packageId package system.db with
        hsame | ⟨hfree, hstored⟩
      · left
        simp only [step, System.publish, System.packageMailbox, hsame]
      · right; right
        refine ⟨⟨packageId, deviceId, package, none, now⟩, ⟨hfree, now, rfl⟩, ?_⟩
        simp only [step, System.publish, System.packageMailbox, hstored]
        rfl
  | fetchKeyPackage fetch => exact .inr (.inl ⟨fetch, rfl⟩)
  | fetchWelcomes fetch => exact .inl rfl
  | startUpload upload =>
      left
      simp only [step, System.startUpload]
      split <;> rfl
  | proceedUpload transaction =>
      left
      simp only [step]
      split
      · rfl
      · exact (proceedUpload_cases system _).1
  | abortUpload transaction =>
      left
      simp only [step]
      split <;> rfl
  | others db => exact .inl rfl

/-- A step leaves the Welcome mailbox alone, is a step of a fetch or stores a
Welcome under a new identifier. -/
theorem welcomes_cases (system : System) (label : Label) :
    (step system label).welcomeMailbox = system.welcomeMailbox ∨
      (∃ fetch, (step system label).welcomeMailbox =
        Mailbox.step welcomeHandout system.welcomeMailbox fetch) ∨
      ∃ row, UploadsFirst row system label ∧
        (step system label).welcomeMailbox = system.welcomeMailbox.insert row := by
  cases label with
  | publishKeyPackage now deviceId packageId package =>
      left
      rcases publishKeyPackage_cases now deviceId packageId package system.db with
        hsame | ⟨-, hstored⟩
      · simp only [step, System.publish, System.welcomeMailbox, hsame]
      · simp only [step, System.publish, System.welcomeMailbox, hstored]
  | fetchKeyPackage fetch => exact .inl rfl
  | fetchWelcomes fetch => exact .inr (.inl ⟨fetch, rfl⟩)
  | startUpload upload =>
      left
      simp only [step, System.startUpload]
      split <;> rfl
  | proceedUpload transaction =>
      simp only [step]
      cases hupload : system.uploads.lookup transaction with
      | none => exact .inl rfl
      | some upload =>
          dsimp only
          rcases (proceedUpload_cases system upload).2 with
            hsame | ⟨hwritten, hinsert⟩
          · exact .inl hsame
          by_cases hfree : system.db.welcomeMailbox.lookup upload.welcomeId = none
          · exact .inr (.inr ⟨upload.row, ⟨hfree, transaction, upload, rfl,
              hupload, hwritten, rfl, rfl, rfl, rfl⟩, hinsert⟩)
          · left
            have hignored : system.db.welcomeMailbox.insert? upload.row = none :=
              Table.insert?_eq_none_iff.mpr hfree
            rw [hinsert, Mailbox.State.insert]
            simp only [System.welcomeMailbox, Table.insertOrIgnore, hignored,
              Option.getD_none]
  | abortUpload transaction =>
      left
      simp only [step]
      split <;> rfl
  | others db => exact .inl rfl

/-! ## Whole runs -/

section Runs

variable {ρ κ Q γ : Type} {key : ρ → κ} [DecidableEq κ]

/-- How a mailbox moves in a step of the system: `Stores` says when a row may
be inserted. -/
def Moves (handout : Mailbox.Handout key Q γ) (Stores : ρ → Prop)
    (state next : Mailbox.State key Q) : Prop :=
  next = state ∨ (∃ label, next = Mailbox.step handout state label) ∨
    ∃ row, Stores row ∧ next = state.insert row

variable {handout : Mailbox.Handout key Q γ} {Stores : ρ → Prop}
  {state next : Mailbox.State key Q}

theorem inv_moves (hinv : Mailbox.Inv handout state)
    (hmoves : Moves handout Stores state next) :
    Mailbox.Inv handout next ∧ Mailbox.Kept handout state next := by
  rcases hmoves with rfl | ⟨label, rfl⟩ | ⟨row, -, rfl⟩
  · exact ⟨hinv, Mailbox.kept_refl _⟩
  · exact Mailbox.inv_step hinv label
  · exact ⟨Mailbox.inv_insert hinv row, Mailbox.kept_insert row⟩

/-- A row found after the step was inserted by it or has its content from
before. -/
theorem found_after_moves (hinv : Mailbox.Inv handout state)
    (hmoves : Moves handout Stores state next) {k : κ} {latest : ρ}
    (hlatest : next.stored.lookup k = some latest) :
    Stores latest ∨ ∃ before, state.stored.lookup k = some before ∧
      handout.content before = handout.content latest := by
  rcases hmoves with rfl | ⟨label, rfl⟩ | ⟨row, hstores, rfl⟩
  · exact .inr ⟨latest, hlatest, rfl⟩
  · have hcontent := Mailbox.content_step hinv label k
    rw [hlatest, Option.map_some] at hcontent
    exact .inr (Option.map_eq_some_iff.mp hcontent.symm)
  · rcases Table.lookup_insertOrIgnore_cases hlatest with rfl | hbefore
    · exact .inl hstores
    · exact .inr ⟨latest, hbefore, rfl⟩

end Runs

theorem firstPackage_of_content {db : Database} {labels : List Label}
    {before row : KeyPackageRow} (hfirst : FirstPackage db labels before)
    (hkey : row.packageId = before.packageId)
    (hcontent : packageHandout.content row = packageHandout.content before) :
    FirstPackage db labels row := by
  obtain ⟨hdevice, hpackage, -⟩ : row.deviceId = before.deviceId ∧
      row.package = before.package ∧ row.createdAt = before.createdAt := by
    simpa [packageHandout] using hcontent
  unfold FirstPackage PublishesFirst
  rw [hkey, hdevice, hpackage]
  exact hfirst

theorem firstWelcome_of_content {db : Database} {labels : List Label}
    {before row : WelcomeRow} (hfirst : FirstWelcome db labels before)
    (hkey : row.welcomeId = before.welcomeId)
    (hcontent : welcomeHandout.content row = welcomeHandout.content before) :
    FirstWelcome db labels row := by
  obtain ⟨htarget, hgroup, hwelcome, -⟩ :
      row.targetDeviceId = before.targetDeviceId ∧ row.groupId = before.groupId ∧
        row.welcome = before.welcome ∧ row.expiresAt = before.expiresAt := by
    simpa [welcomeHandout] using hcontent
  unfold FirstWelcome UploadsFirst
  rw [hkey, htarget, hgroup, hwelcome]
  exact hfirst

/-- Both mailboxes are in order. -/
structure Inv (system : System) : Prop where
  packages : Mailbox.Inv packageHandout system.packageMailbox
  welcomes : Mailbox.Inv welcomeHandout system.welcomeMailbox

theorem inv_initial (db : Database) : Inv (System.initial db) where
  packages := Mailbox.inv_initial db.keyPackages
  welcomes := Mailbox.inv_initial db.welcomeMailbox

theorem inv_step (system : System) (label : Label) (hinv : Inv system) :
    Inv (step system label) where
  packages := (inv_moves hinv.packages (packages_cases system label)).1
  welcomes := (inv_moves hinv.welcomes (welcomes_cases system label)).1

/-- What a run leads to: both mailboxes are in order, and everything stored was
stored first. -/
structure Reached (db : Database) (labels : List Label) (system : System) : Prop
    extends Inv system where
  packagesFirst : ∀ packageId row,
    system.db.keyPackages.lookup packageId = some row → FirstPackage db labels row
  welcomesFirst : ∀ welcomeId row,
    system.db.welcomeMailbox.lookup welcomeId = some row →
      FirstWelcome db labels row

theorem reached_initial (db : Database) :
    Reached db [] (System.initial db) where
  toInv := inv_initial db
  packagesFirst := by
    intro packageId row hrow
    have hkey : row.packageId = packageId := Table.key_of_lookup hrow
    subst hkey
    exact .inl ⟨row, hrow, rfl, rfl⟩
  welcomesFirst := by
    intro welcomeId row hrow
    have hkey : row.welcomeId = welcomeId := Table.key_of_lookup hrow
    subst hkey
    exact .inl ⟨row, hrow, rfl, rfl, rfl⟩

theorem reached_step {db : Database} {labels : List Label} {label : Label}
    (hreached : Reached db labels (run step (System.initial db) labels)) :
    Reached db (labels ++ [label])
      (step (run step (System.initial db) labels) label) where
  toInv := inv_step _ label hreached.toInv
  packagesFirst := by
    intro packageId row hrow
    rcases found_after_moves hreached.packages (packages_cases _ label) hrow with
      hstores | ⟨before, hbefore, hcontent⟩
    · exact .inr (once_last hstores)
    · have hkey : row.packageId = before.packageId :=
        (Table.key_of_lookup hrow).trans (Table.key_of_lookup hbefore).symm
      apply firstPackage_of_content _ hkey hcontent.symm
      rcases hreached.packagesFirst packageId before hbefore with hstart | honce
      · exact .inl hstart
      · exact .inr (once_append honce [label])
  welcomesFirst := by
    intro welcomeId row hrow
    rcases found_after_moves hreached.welcomes (welcomes_cases _ label) hrow with
      hstores | ⟨before, hbefore, hcontent⟩
    · exact .inr (once_last hstores)
    · have hkey : row.welcomeId = before.welcomeId :=
        (Table.key_of_lookup hrow).trans (Table.key_of_lookup hbefore).symm
      apply firstWelcome_of_content _ hkey hcontent.symm
      rcases hreached.welcomesFirst welcomeId before hbefore with hstart | honce
      · exact .inl hstart
      · exact .inr (once_append honce [label])

theorem reached_run (db : Database) (labels : List Label) :
    Reached db labels (run step (System.initial db) labels) :=
  run_history (reached_initial db) (fun _ _ => reached_step) labels

theorem sound_of_reached {db : Database} {labels : List Label} {system : System}
    (hreached : Reached db labels system) : Sound db labels system where
  packagesOnce := hreached.packages.once
  welcomesOnce := hreached.welcomes.once
  packagesOwned := by
    intro answer hanswer row hrow
    exact of_decide_eq_true (hreached.packages.eligible answer hanswer row hrow)
  welcomesOwned := by
    intro answer hanswer row hrow
    exact (of_decide_eq_true
      (hreached.welcomes.eligible answer hanswer row hrow)).1
  packagesGenuine := by
    intro answer hanswer row hrow
    obtain ⟨latest, hlatest, -, hcontent⟩ := hreached.packages.spent row
      (List.mem_flatMap.mpr ⟨answer, hanswer, hrow⟩)
    exact firstPackage_of_content (hreached.packagesFirst _ latest hlatest)
      (Table.key_of_lookup hlatest).symm hcontent.symm
  welcomesGenuine := by
    intro answer hanswer row hrow
    obtain ⟨latest, hlatest, -, hcontent⟩ := hreached.welcomes.spent row
      (List.mem_flatMap.mpr ⟨answer, hanswer, hrow⟩)
    exact firstWelcome_of_content (hreached.welcomesFirst _ latest hlatest)
      (Table.key_of_lookup hlatest).symm hcontent.symm

/-- Both mailboxes keep what they store. -/
def Kept (earlier later : System) : Prop :=
  Mailbox.Kept packageHandout earlier.packageMailbox later.packageMailbox ∧
    Mailbox.Kept welcomeHandout earlier.welcomeMailbox later.welcomeMailbox

theorem staysConsumed_of_kept {earlier later : System}
    (hkept : Kept earlier later) : StaysConsumed earlier later where
  packages := by
    intro packageId row hrow hconsumed
    obtain ⟨latest, hlatest, -, hstays⟩ := hkept.1 packageId row hrow
    exact ⟨latest, hlatest, hstays hconsumed⟩
  welcomes := by
    intro welcomeId row hrow hconsumed
    obtain ⟨latest, hlatest, -, hstays⟩ := hkept.2 welcomeId row hrow
    exact ⟨latest, hlatest, hstays hconsumed⟩

theorem kept_refl (system : System) : Kept system system :=
  ⟨Mailbox.kept_refl _, Mailbox.kept_refl _⟩

theorem kept_trans (first second third : System) (hfirst : Kept first second)
    (hsecond : Kept second third) : Kept first third :=
  ⟨Mailbox.kept_trans _ _ _ hfirst.1 hsecond.1,
    Mailbox.kept_trans _ _ _ hfirst.2 hsecond.2⟩

theorem kept_step (system : System) (label : Label) (hinv : Inv system) :
    Kept system (step system label) :=
  ⟨(inv_moves hinv.packages (packages_cases system label)).2,
    (inv_moves hinv.welcomes (welcomes_cases system label)).2⟩

theorem kept_run (db : Database) (labels : List Label) :
    Ascending step Kept (System.initial db) labels := by
  apply (ascending_iff_guarded kept_refl kept_trans).mpr
  exact guarded_of_invariant inv_step kept_step (inv_initial db) labels

/-- In every interleaving of publications, uploads and fetches, no key package
and no Welcome is returned twice, each is returned to the device it is for with
the bytes first stored under its identifier, and none becomes available again
once it is consumed. -/
theorem items_are_one_time (db : Database) (labels : List Label) :
    Sound db labels (run step (System.initial db) labels) ∧
      Ascending step StaysConsumed (System.initial db) labels := by
  refine ⟨sound_of_reached (reached_run db labels), ?_⟩
  intro before middle after hlabels
  exact staysConsumed_of_kept (kept_run db labels before middle after hlabels)

/-! ## Calls on their own -/

theorem run_fetchKeyPackage (system : System)
    (labels : List (Mailbox.Label PackageRequest)) :
    run step system (labels.map .fetchKeyPackage) =
      system.withPackages
        (run (Mailbox.step packageHandout) system.packageMailbox labels) := by
  induction labels generalizing system with
  | nil => rfl
  | cons label labels ih =>
      rw [List.map_cons, run_cons, ih]
      rfl

theorem run_fetchWelcomes (system : System)
    (labels : List (Mailbox.Label WelcomeRequest)) :
    run step system (labels.map .fetchWelcomes) =
      system.withWelcomes
        (run (Mailbox.step welcomeHandout) system.welcomeMailbox labels) := by
  induction labels generalizing system with
  | nil => rfl
  | cons label labels ih =>
      rw [List.map_cons, run_cons, ih]
      rfl

/-- The steps of a fetch that returns `count` rows. -/
def fetchSteps {Q : Type} (transaction : ℕ) (request : Q) (count : ℕ) :
    List (Mailbox.Label Q) :=
  .start transaction request :: List.replicate (count + 3) (.proceed transaction)

/-- The unconsumed packages of the requested device, oldest first. -/
def oldestFirst (request : PackageRequest) (db : Database) : List KeyPackageRow :=
  (db.keyPackages.rows.filter fun row =>
    row.deviceId = request.targetDeviceId ∧ row.consumedAt.isNone).insertionSort
      fun left right => left.createdAt ≤ right.createdAt

theorem packageRows_eq (request : PackageRequest) (db : Database) :
    packageHandout.rows db.keyPackages request = (oldestFirst request db).take 1 := by
  have hcondition : (fun row : KeyPackageRow =>
      decide (row.deviceId = request.targetDeviceId) && !row.consumedAt.isSome) =
      fun row => decide (row.deviceId = request.targetDeviceId ∧
        row.consumedAt.isNone = true) := by
    funext row
    cases row.consumedAt <;> simp
  simp only [Mailbox.Handout.rows, packageHandout, List.filter_filter, hcondition]
  rfl

/-- What `fetch_key_package` does when a package is there and when none is. -/
theorem fetchKeyPackage_of_nil {request : PackageRequest} {db : Database}
    (hnone : oldestFirst request db = []) :
    fetchKeyPackage request.startedAt request.targetDeviceId db = (none, db) := by
  have hhead : (oldestFirst request db).head? = none := by rw [hnone]; rfl
  unfold oldestFirst at hhead
  simp only [fetchKeyPackage, hhead]

theorem fetchKeyPackage_of_cons {request : PackageRequest} {db : Database}
    {row : KeyPackageRow} {rest : List KeyPackageRow}
    (hsome : oldestFirst request db = row :: rest) :
    fetchKeyPackage request.startedAt request.targetDeviceId db =
      (some (row.packageId, row.package),
        { db with
          keyPackages := db.keyPackages.modify row.packageId (fun _ => true)
            (packageHandout.consume request)
            (packageHandout.key_consume request) }) := by
  have hhead : (oldestFirst request db).head? = some row := by rw [hsome]; rfl
  unfold oldestFirst at hhead
  simp only [fetchKeyPackage, hhead]
  rfl

/-- `fetch_key_package` through the rows its request finds. -/
theorem fetchKeyPackage_eq (request : PackageRequest) (db : Database) :
    fetchKeyPackage request.startedAt request.targetDeviceId db =
      ((packageHandout.rows db.keyPackages request).head?.map fun row =>
          (row.packageId, row.package),
        { db with
          keyPackages := db.keyPackages.update
            (fun row => (packageHandout.rows db.keyPackages request).any
              fun taken => taken.packageId = row.packageId)
            (packageHandout.consume request)
            (packageHandout.key_consume request) }) := by
  rw [packageRows_eq]
  cases hrows : oldestFirst request db with
  | nil =>
      have hsame : db.keyPackages.update (fun _ => false)
          (packageHandout.consume request) (packageHandout.key_consume request) =
          db.keyPackages := by
        apply Table.ext
        simp [Table.update]
      rw [fetchKeyPackage_of_nil hrows]
      simp [hsame]
  | cons row rest =>
      have hmarked : db.keyPackages.modify row.packageId (fun _ => true)
          (packageHandout.consume request) (packageHandout.key_consume request) =
          db.keyPackages.update
            (fun other => [row].any fun taken => taken.packageId = other.packageId)
            (packageHandout.consume request)
            (packageHandout.key_consume request) := by
        apply Table.ext
        simp [Table.modify, Table.update, eq_comm]
      rw [fetchKeyPackage_of_cons hrows, hmarked]
      rfl

/-- The statements of a fetch that nothing interrupts amount to
`fetch_key_package`. -/
theorem uninterrupted_fetchKeyPackage (system : System) (transaction : ℕ)
    (request : PackageRequest) (hidle : system.packages.fetches = Table.empty) :
    run step system ((fetchSteps transaction request
        (packageHandout.rows system.db.keyPackages request).length).map
          .fetchKeyPackage) =
      { system with
        db := (fetchKeyPackage request.startedAt request.targetDeviceId system.db).2
        packages := ⟨Table.empty, system.packages.returned ++
          [⟨request, packageHandout.rows system.db.keyPackages request⟩]⟩ } := by
  rw [run_fetchKeyPackage, fetchKeyPackage_eq]
  apply (congrArg system.withPackages (Mailbox.uninterrupted_fetch packageHandout
    system.packageMailbox transaction request hidle)).trans
  simp only [System.withPackages, Mailbox.State.commit, System.packageMailbox,
    hidle]
  rfl

theorem welcomeRows_eq (request : WelcomeRequest) (db : Database) :
    welcomeHandout.rows db.welcomeMailbox request =
      (fetchWelcomes request.startedAt request.targetDeviceId request.limit
        db).1 := by
  have hcondition : (fun row : WelcomeRow =>
      decide (row.targetDeviceId = request.targetDeviceId ∧
        request.startedAt < row.expiresAt) && !row.consumedAt.isSome) =
      fun row => decide (row.targetDeviceId = request.targetDeviceId ∧
        row.consumedAt.isNone = true ∧ request.startedAt < row.expiresAt) := by
    funext row
    cases row.consumedAt <;> simp
  simp only [Mailbox.Handout.rows, welcomeHandout, List.filter_filter, hcondition]
  rfl

/-- The statements of a fetch that nothing interrupts amount to
`fetch_welcomes`. -/
theorem uninterrupted_fetchWelcomes (system : System) (transaction : ℕ)
    (request : WelcomeRequest) (hidle : system.welcomes.fetches = Table.empty) :
    run step system ((fetchSteps transaction request
        (welcomeHandout.rows system.db.welcomeMailbox request).length).map
          .fetchWelcomes) =
      { system with
        db := (fetchWelcomes request.startedAt request.targetDeviceId
          request.limit system.db).2
        welcomes := ⟨Table.empty, system.welcomes.returned ++
          [⟨request, (fetchWelcomes request.startedAt request.targetDeviceId
            request.limit system.db).1⟩]⟩ } := by
  have hmarked : (fetchWelcomes request.startedAt request.targetDeviceId
      request.limit system.db).2 = { system.db with
        welcomeMailbox := system.db.welcomeMailbox.update
          (fun row => (welcomeHandout.rows system.db.welcomeMailbox request).any
            fun taken => taken.welcomeId = row.welcomeId)
          (welcomeHandout.consume request) (welcomeHandout.key_consume request) } := by
    rw [welcomeRows_eq]
    simp only [fetchWelcomes]
    congr 1
    apply Table.ext
    simp [Table.update, welcomeHandout]
  rw [run_fetchWelcomes, hmarked, ← welcomeRows_eq]
  apply (congrArg system.withWelcomes (Mailbox.uninterrupted_fetch welcomeHandout
    system.welcomeMailbox transaction request hidle)).trans
  simp only [System.withWelcomes, Mailbox.State.commit, System.welcomeMailbox,
    hidle]
  rfl

/-- The system with one upload in flight. -/
def System.uploading (system : System) (upload : Upload) : System :=
  { system with uploads := ⟨[upload], List.nodup_singleton _⟩ }

/-- The system after its only upload. -/
def System.uploaded (system : System)
    (outcome : Except ApiError Unit × Database) : System :=
  { system with
    db := outcome.2
    uploads := Table.empty
    answers := system.answers ++ [outcome.1] }

theorem step_uploading (system : System) (upload : Upload) :
    step (system.uploading upload) (.proceedUpload upload.transaction) =
      (system.uploading upload).proceedUpload upload := by
  simp [step, System.uploading, Table.lookup]

theorem run_uploaded (system : System) (transaction count : ℕ)
    (outcome : Except ApiError Unit × Database) :
    run step (system.uploaded outcome)
        (List.replicate count (.proceedUpload transaction)) =
      system.uploaded outcome := by
  induction count with
  | zero => rfl
  | succ count ih =>
      rw [List.replicate_succ, run_cons]
      exact ih

/-- An upload that nothing interrupts and that ends with its next statement. -/
theorem finished_uploading {system : System} {upload : Upload}
    {result : Except ApiError Unit}
    (hfinished : (system.uploading upload).proceedUpload upload =
      (system.uploading upload).finishUpload upload.transaction result)
    (count : ℕ) :
    run step (system.uploading upload)
        (List.replicate (count + 1) (.proceedUpload upload.transaction)) =
      system.uploaded (result, system.db) := by
  have hended : (system.uploading upload).finishUpload upload.transaction result =
      system.uploaded (result, system.db) := by
    simp [System.finishUpload, System.uploading, System.uploaded, Table.erase,
      Table.delete, Table.empty]
  rw [List.replicate_succ, run_cons, step_uploading, hfinished, hended,
    run_uploaded]

/-- An upload that nothing interrupts and that goes on. -/
theorem reached_uploading {system : System} {upload : Upload}
    {progress : UploadProgress}
    (hreached : (system.uploading upload).proceedUpload upload =
      (system.uploading upload).reachUpload upload.transaction progress)
    (count : ℕ) :
    run step (system.uploading upload)
        (List.replicate (count + 1) (.proceedUpload upload.transaction)) =
      run step (system.uploading { upload with progress })
        (List.replicate count (.proceedUpload upload.transaction)) := by
  have hnext : (system.uploading upload).reachUpload upload.transaction progress =
      system.uploading { upload with progress } := by
    simp [System.reachUpload, System.uploading, Table.modify, Table.update]
  rw [List.replicate_succ, run_cons, step_uploading, hreached, hnext]

/-- `INSERT … ON CONFLICT(welcome_id) DO NOTHING` of an upload's Welcome. -/
theorem insertWelcomeOrIgnore_row (upload : Upload) (db : Database) :
    db.insertWelcomeOrIgnore upload.row =
      if (db.welcomeMailbox.lookup upload.welcomeId).isSome then .ok db
      else if db.hasDevice upload.targetDeviceId && db.hasGroup upload.groupId then
        .ok { db with
          welcomeMailbox := db.welcomeMailbox.insertOrIgnore upload.row }
      else .error .database := by
  by_cases hstored : (db.welcomeMailbox.lookup upload.welcomeId).isSome
  · rw [if_pos hstored]
    exact if_pos hstored
  have hfree : db.welcomeMailbox.lookup upload.row.welcomeId = none :=
    Option.not_isSome_iff_eq_none.mp hstored
  obtain ⟨welcomeMailbox, hinsert⟩ : ∃ welcomeMailbox,
      db.welcomeMailbox.insert? upload.row = some welcomeMailbox :=
    Option.ne_none_iff_exists'.mp fun hnone =>
      Table.insert?_eq_none_iff.mp hnone hfree
  have htable : db.welcomeMailbox.insertOrIgnore upload.row = welcomeMailbox := by
    rw [Table.insertOrIgnore, hinsert]
    rfl
  rw [if_neg hstored, htable]
  apply (if_neg hstored).trans
  unfold Database.insertInto
  by_cases hallowed : (db.hasDevice upload.targetDeviceId &&
      db.hasGroup upload.groupId) = true
  · have hrow : (db.hasDevice upload.row.targetDeviceId &&
        db.hasGroup upload.row.groupId) = true := hallowed
    rw [if_pos hallowed, if_pos hrow, hinsert]
    rfl
  · have hrow : ¬(db.hasDevice upload.row.targetDeviceId &&
        db.hasGroup upload.row.groupId) = true := hallowed
    rw [if_neg hallowed, if_neg hrow]
    rfl

/-- The commit of an upload that nothing interrupts. -/
theorem committing_alone (system : System) (upload : Upload) (inserted : Bool)
    (hwritten : upload.progress = .written inserted) :
    run step (system.uploading upload)
        (List.replicate 1 (.proceedUpload upload.transaction)) =
      system.uploaded (.ok (), { system.db with
        welcomeMailbox :=
          if inserted then system.db.welcomeMailbox.insertOrIgnore upload.row
          else system.db.welcomeMailbox }) := by
  rw [List.replicate_one, run_cons, step_uploading]
  simp [System.proceedUpload, hwritten, System.finishUpload, System.uploading,
    System.uploaded, Table.erase, Table.delete, Table.empty]

/-- The insertion of an upload that nothing interrupts and what follows. -/
theorem inserting_alone (system : System) (upload : Upload)
    (hknown : upload.progress = .targetKnown) :
    run step (system.uploading upload)
        (List.replicate 2 (.proceedUpload upload.transaction)) =
      system.uploaded (transaction system.db fun db => do
        let db ← db.insertWelcomeOrIgnore upload.row
        pure ((), db)) := by
  have hpending : (system.uploading upload).insertionPending upload = false := by
    simp [System.insertionPending, System.uploading]
  rw [transaction, insertWelcomeOrIgnore_row]
  by_cases hstored : (system.db.welcomeMailbox.lookup upload.welcomeId).isSome
  · have hreached : (system.uploading upload).proceedUpload upload =
        (system.uploading upload).reachUpload upload.transaction
          (.written false) := by
      rw [System.proceedUpload, hknown]
      exact if_pos hstored
    rw [reached_uploading hreached, if_pos hstored]
    exact committing_alone system { upload with progress := .written false }
      false rfl
  rw [if_neg hstored]
  by_cases hallowed : (system.db.hasDevice upload.targetDeviceId &&
      system.db.hasGroup upload.groupId) = true
  · have hreached : (system.uploading upload).proceedUpload upload =
        (system.uploading upload).reachUpload upload.transaction
          (.written true) := by
      rw [System.proceedUpload, hknown, hpending]
      exact (if_neg hstored).trans (if_pos hallowed)
    rw [reached_uploading hreached, if_pos hallowed]
    exact committing_alone system { upload with progress := .written true }
      true rfl
  · have hrefused : (system.uploading upload).proceedUpload upload =
        (system.uploading upload).finishUpload upload.transaction
          (.error .database) := by
      rw [System.proceedUpload, hknown, hpending]
      exact (if_neg hstored).trans (if_neg hallowed)
    rw [if_neg hallowed]
    exact finished_uploading hrefused 1

/-- The statements of an upload that nothing interrupts amount to
`upload_welcome`. -/
theorem uninterrupted_uploadWelcome (system : System) (upload : Upload)
    (hidle : system.uploads = Table.empty) :
    run step system (.startUpload upload ::
        List.replicate 4 (.proceedUpload upload.transaction)) =
      system.uploaded (uploadWelcome upload.startedAt upload.authorDeviceId
        upload.targetDeviceId upload.groupId upload.welcomeId upload.welcome
        system.db) := by
  rw [run_cons]
  by_cases hsize : upload.welcome = [] ∨ 65536 < upload.welcome.length
  · have hstart : step system (.startUpload upload) =
        system.uploaded (.error .invalidInput, system.db) := by
      simp only [step, System.startUpload, if_pos hsize, System.uploaded, hidle]
    rw [hstart, run_uploaded, uploadWelcome, if_pos hsize]
  let started : Upload := { upload with progress := .started }
  have hstart : step system (.startUpload upload) = system.uploading started := by
    simp only [step, System.startUpload, if_neg hsize, hidle]
    rfl
  rw [hstart, uploadWelcome, if_neg hsize]
  cases hmember : assertActiveMember upload.groupId upload.authorDeviceId
      system.db with
  | error failure =>
      have hrefused : (system.uploading started).proceedUpload started =
          (system.uploading started).finishUpload upload.transaction
            (.error failure) := by
        simp only [System.proceedUpload, System.uploading, started, hmember]
      rw [transaction, hmember]
      exact finished_uploading hrefused 3
  | ok _ =>
      have hadmitted : (system.uploading started).proceedUpload started =
          (system.uploading started).reachUpload upload.transaction .admitted := by
        simp only [System.proceedUpload, System.uploading, started, hmember]
      apply (reached_uploading hadmitted 3).trans
      by_cases hunknown : (system.db.groupMembers.lookup
          (upload.groupId, upload.targetDeviceId)).isNone = true
      · have hrefused : (system.uploading { upload with progress := .admitted
            }).proceedUpload { upload with progress := .admitted } =
            (system.uploading { upload with progress := .admitted }).finishUpload
              upload.transaction (.error .unauthorized) := if_pos hunknown
        rw [transaction, hmember, if_pos hunknown]
        exact finished_uploading hrefused 2
      · have hknown : (system.uploading { upload with progress := .admitted
            }).proceedUpload { upload with progress := .admitted } =
            (system.uploading { upload with progress := .admitted }).reachUpload
              upload.transaction .targetKnown := if_neg hunknown
        apply (reached_uploading hknown 2).trans
        rw [transaction, hmember, if_neg hunknown]
        exact inserting_alone system { upload with progress := .targetKnown } rfl

end ResilientMessenger.OneTimeItems
