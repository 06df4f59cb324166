import ResilientMessenger.Core.Runs
import ResilientMessenger.Server.Redelivery

/-!
# Cursors and visibility

Uploads run as transactions next to each other and next to a device that reads
page after page.  An insertion takes its cursor from the sequence when it
starts, but its row becomes visible only when its transaction commits.  Nothing
orders the two, so a row can become visible below the cursor the reader has
already reached; the reader then never receives it.  A run delivers everything
exactly when no commit does that.
-/

namespace ResilientMessenger.CursorVisibility

open ResilientMessenger.ByteCodec
open ResilientMessenger.Schema
open ResilientMessenger.Backend
open ResilientMessenger.Transaction
open ResilientMessenger.Runs

/-! ## Uploads in flight and a reader -/

/-- How far the transaction of an upload has come. -/
inductive Progress where
  | started
  | checked
  | numbered (cursor : ℤ)
  | written (cursor : ℤ)
  deriving DecidableEq

structure Upload where
  transaction : ℕ
  startedAt : Time
  event : UploadedEvent
  progress : Progress
  deriving DecidableEq

def Upload.row (upload : Upload) (cursor : ℤ) : EventRow :=
  upload.event.row upload.startedAt cursor

/-- The row only the transaction itself can see. -/
def Upload.uncommitted (upload : Upload) : Option EventRow :=
  match upload.progress with
  | .written cursor => some (upload.row cursor)
  | _ => none

/-- What a reader follows: one group or all groups it is active in. -/
inductive Scope where
  | group (groupId : Id16)
  | global
  deriving DecidableEq

def Scope.covers (scope : Scope) (deviceId : Id16) (db : Database)
    (row : EventRow) : Bool :=
  match scope with
  | .group groupId => row.groupId = groupId
  | .global => activeIn db deviceId row.groupId

def Scope.sync (scope : Scope) (now : Time) (deviceId : Id16) (after limit : ℤ)
    (db : Database) : Except ApiError (List SyncEvent) :=
  match scope with
  | .group groupId => syncGroup now deviceId groupId after limit db
  | .global => .ok (syncGlobal now deviceId after limit db)

/-- The largest cursor returned so far and all events returned so far. -/
structure Reader where
  after : ℤ
  returned : List SyncEvent
  deriving DecidableEq

def Reader.receive (reader : Reader) (events : List SyncEvent) : Reader where
  after := Paging.advance reader.after (events.map SyncEvent.cursor)
  returned := reader.returned ++ events

/-- `db` holds what is committed. -/
structure System where
  db : Database
  uploads : Table Upload.transaction
  now : Time
  reader : Reader
  deriving DecidableEq

inductive Label where
  | start (transaction : ℕ) (event : UploadedEvent)
  | proceed (transaction : ℕ)
  | abort (transaction : ℕ)
  | wait (duration : ℕ)
  | sync (limit : ℤ)
  deriving DecidableEq

namespace System

def start (system : System) (transaction : ℕ) (event : UploadedEvent) : System :=
  if event.ciphertext = [] ∨ 65536 < event.ciphertext.length then system
  else
    { system with
      uploads := system.uploads.insertOrIgnore
        ⟨transaction, system.now, event, .started⟩ }

def reach (system : System) (transaction : ℕ) (progress : Progress) : System :=
  { system with
    uploads := system.uploads.modify transaction (fun _ => true)
      (fun upload => { upload with progress }) fun _ => rfl }

def finish (system : System) (transaction : ℕ) : System :=
  { system with uploads := system.uploads.erase transaction }

/-- Two rows that a uniqueness constraint keeps apart. -/
def clash (row other : EventRow) : Bool :=
  row.eventId = other.eventId ∨ row.eventCursor = other.eventCursor ∨
    row.authorDeviceId = other.authorDeviceId ∧
      row.clientMessageId = other.clientMessageId

/-- An uncommitted row of some transaction holds one of the row's keys. -/
def blocked (system : System) (row : EventRow) : Bool :=
  system.uploads.rows.any fun upload => upload.uncommitted.any (clash row)

/-- The next statement of `upload_event`.  Its `INSERT` takes a number first
and writes then, which waits as long as another transaction holds a key. -/
def proceed (system : System) (upload : Upload) : System :=
  match upload.progress with
  | .started =>
      match checkUpload upload.event system.db with
      | .ok none => system.reach upload.transaction .checked
      | _ => system.finish upload.transaction
  | .checked =>
      let cursor := system.db.eventSequence + 1
      { system with db := { system.db with eventSequence := cursor } }.reach
        upload.transaction (.numbered cursor)
  | .numbered cursor =>
      match system.db.insertEvent (upload.row cursor) with
      | .error _ => system.finish upload.transaction
      | .ok _ =>
          if system.blocked (upload.row cursor) then system
          else system.reach upload.transaction (.written cursor)
  | .written cursor =>
      match system.db.insertEvent (upload.row cursor) with
      | .error _ => system.finish upload.transaction
      | .ok db => { system with db }.finish upload.transaction

end System

def step (deviceId : Id16) (scope : Scope) (system : System) : Label → System
  | .start transaction event => system.start transaction event
  | .proceed transaction =>
      match system.uploads.lookup transaction with
      | none => system
      | some upload => system.proceed upload
  | .abort transaction => system.finish transaction
  | .wait duration => { system with now := system.now + duration }
  | .sync limit =>
      match scope.sync system.now deviceId system.reader.after limit system.db with
      | .error _ => system
      | .ok events => { system with reader := system.reader.receive events }

/-- A database whose events were all numbered by its sequence. -/
structure Numbered where
  db : Database
  nonneg : 0 ≤ db.eventSequence
  issued : ∀ row ∈ db.groupEvents.rows,
    0 < row.eventCursor ∧ row.eventCursor ≤ db.eventSequence
  distinct : (db.groupEvents.rows.map EventRow.eventCursor).Nodup

/-- No upload is in flight and nothing has been read. -/
def System.initial (server : Numbered) (now : Time) : System where
  db := server.db
  uploads := Table.empty
  now := now
  reader := ⟨0, []⟩

/-- Every committed event in the reader's scope that has not expired and lies
at or below the reader's cursor has been returned to it. -/
def NothingSkipped (deviceId : Id16) (scope : Scope) (system : System) : Prop :=
  ∀ row ∈ system.db.groupEvents.rows,
    scope.covers deviceId system.db row = true → system.now < row.expiresAt →
      row.eventCursor ≤ system.reader.after →
        SyncEvent.ofRow row ∈ system.reader.returned

/-- The row a step makes visible. -/
def System.committing (system : System) : Label → Option EventRow
  | .proceed transaction =>
      ((system.uploads.lookup transaction).bind Upload.uncommitted).filter
        fun row => (system.db.insertEvent row).isOk
  | _ => none

/-- A commit in the reader's scope is above the reader's cursor, unless the
event has already expired. -/
def CommitsAhead (deviceId : Id16) (scope : Scope) (system : System)
    (label : Label) : Prop :=
  ∀ row ∈ system.committing label,
    scope.covers deviceId system.db row = true → system.now < row.expiresAt →
      system.reader.after < row.eventCursor

/-! ## What a step does -/

/-- The committed events, the members and the reader are as before. -/
structure Unseen (system next : System) : Prop where
  events : next.db.groupEvents = system.db.groupEvents
  members : next.db.groupMembers = system.db.groupMembers
  reader : next.reader = system.reader
  clock : system.now ≤ next.now

/-- The step commits `row` and does nothing else a reader could see. -/
structure Publishes (row : EventRow) (system next : System) : Prop where
  events : next.db.groupEvents.rows = system.db.groupEvents.rows ++ [row]
  fresh : row.eventCursor ∉ system.db.groupEvents.rows.map EventRow.eventCursor
  members : next.db.groupMembers = system.db.groupMembers
  reader : next.reader = system.reader
  clock : next.now = system.now

/-- Proceeding is invisible until the row is written; then it publishes the
row or, when that fails, is invisible too. -/
theorem proceed_cases (system : System) (upload : Upload) :
    let committing := upload.uncommitted.filter fun row =>
      (system.db.insertEvent row).isOk
    (committing = none ∧ Unseen system (system.proceed upload)) ∨
      ∃ row, committing = some row ∧
        Publishes row system (system.proceed upload) := by
  rcases upload with ⟨transaction, startedAt, event, progress⟩
  cases progress with
  | started =>
      refine .inl ⟨rfl, ?_⟩
      unfold System.proceed
      dsimp only
      split <;> exact ⟨rfl, rfl, rfl, le_rfl⟩
  | checked => exact .inl ⟨rfl, rfl, rfl, rfl, le_rfl⟩
  | numbered cursor =>
      refine .inl ⟨rfl, ?_⟩
      unfold System.proceed
      dsimp only
      split
      · exact ⟨rfl, rfl, rfl, le_rfl⟩
      · split <;> exact ⟨rfl, rfl, rfl, le_rfl⟩
  | written cursor =>
      simp only [System.proceed, Upload.uncommitted]
      cases hinsert : system.db.insertEvent
          (Upload.row ⟨transaction, startedAt, event, .written cursor⟩ cursor) with
      | error failure =>
          refine .inl ⟨?_, rfl, rfl, rfl, le_rfl⟩
          simp [hinsert, Except.isOk, Except.toBool]
      | ok db =>
          obtain ⟨groupEvents, rfl, hrows, hfree⟩ :=
            Database.insertEvent_eq_ok hinsert
          refine .inr ⟨_, ?_, hrows, hfree, rfl, rfl, rfl⟩
          simp [hinsert, Except.isOk, Except.toBool]

/-- Every step is invisible, publishes one row or reads one page. -/
theorem step_cases (deviceId : Id16) (scope : Scope) (system : System)
    (label : Label) :
    (system.committing label = none ∧
        Unseen system (step deviceId scope system label)) ∨
      (∃ row, system.committing label = some row ∧
        Publishes row system (step deviceId scope system label)) ∨
      ∃ limit events, label = .sync limit ∧
        scope.sync system.now deviceId system.reader.after limit system.db =
          .ok events ∧
        step deviceId scope system label =
          { system with reader := system.reader.receive events } := by
  cases label with
  | start transaction event =>
      refine .inl ⟨rfl, ?_⟩
      simp only [step, System.start]
      split <;> exact ⟨rfl, rfl, rfl, le_rfl⟩
  | proceed transaction =>
      cases hlookup : system.uploads.lookup transaction with
      | none =>
          simp only [step, System.committing, hlookup]
          exact .inl ⟨rfl, rfl, rfl, rfl, le_rfl⟩
      | some upload =>
          simp only [step, System.committing, hlookup, Option.bind_some]
          rcases proceed_cases system upload with hunseen | hpublishes
          · exact .inl hunseen
          · exact .inr (.inl hpublishes)
  | abort transaction => exact .inl ⟨rfl, rfl, rfl, rfl, le_rfl⟩
  | wait duration =>
      exact .inl ⟨rfl, rfl, rfl, rfl, Int.le_add_of_nonneg_right (Int.natCast_nonneg _)⟩
  | sync limit =>
      cases hsync : scope.sync system.now deviceId system.reader.after limit
          system.db with
      | error failure =>
          simp only [step, hsync]
          exact .inl ⟨rfl, rfl, rfl, rfl, le_rfl⟩
      | ok events =>
          exact .inr (.inr ⟨limit, events, rfl, hsync, by simp only [step, hsync]⟩)

/-! ## Reading a page -/

theorem sync_eq_ok {scope : Scope} {now : Time} {deviceId : Id16}
    {after limit : ℤ} {db : Database} {events : List SyncEvent}
    (hsync : scope.sync now deviceId after limit db = .ok events) :
    events = (page now after limit (scope.covers deviceId db) db).map
      SyncEvent.ofRow := by
  cases scope with
  | group groupId =>
      obtain ⟨-, -, hevents⟩ := bind_eq_ok.mp hsync
      exact (pure_eq_ok.mp hevents).symm
  | global => exact (Except.ok.inj hsync).symm

theorem mem_of_mem_page {now : Time} {after limit : ℤ}
    {visible : EventRow → Bool} {db : Database} {row : EventRow}
    (hrow : row ∈ page now after limit visible db) :
    row ∈ db.groupEvents.rows :=
  List.mem_of_mem_filter (Paging.mem_of_mem_pageOf hrow)

/-- A page leaves no gap below its last event. -/
theorem mem_page_of_le {now : Time} {after limit : ℤ}
    {visible : EventRow → Bool} {db : Database} {seen row : EventRow}
    (hdistinct : (db.groupEvents.rows.map EventRow.eventCursor).Nodup)
    (hseen : seen ∈ page now after limit visible db)
    (hrow : row ∈ db.groupEvents.rows) (hvisible : visible row = true)
    (hlive : now < row.expiresAt) (hafter : max after 0 < row.eventCursor)
    (hle : row.eventCursor ≤ seen.eventCursor) :
    row ∈ page now after limit visible db := by
  apply Paging.mem_pageOf_of_le _ hseen _ hle
  · exact hdistinct.sublist (List.filter_sublist.map EventRow.eventCursor)
  · exact List.mem_filter.mpr
      ⟨hrow, decide_eq_true ⟨hvisible, hafter, hlive⟩⟩

/-! ## Whole runs -/

/-- The invariant of guarded runs. -/
structure Consistent (deviceId : Id16) (scope : Scope) (system : System) :
    Prop where
  distinct : (system.db.groupEvents.rows.map EventRow.eventCursor).Nodup
  nonneg : 0 ≤ system.reader.after
  complete : NothingSkipped deviceId scope system
  genuine : ∀ event ∈ system.reader.returned,
    event.cursor ∈ system.db.groupEvents.rows.map EventRow.eventCursor

theorem covers_congr {scope : Scope} {deviceId : Id16} {db other : Database}
    (hmembers : other.groupMembers = db.groupMembers) :
    scope.covers deviceId other = scope.covers deviceId db := by
  funext row
  cases scope <;> simp [Scope.covers, activeIn, hmembers]

theorem initial_consistent (server : Numbered) (now : Time) (deviceId : Id16)
    (scope : Scope) : Consistent deviceId scope (System.initial server now) where
  distinct := server.distinct
  nonneg := le_refl 0
  complete := by
    intro row hrow _ _ hle
    exact absurd (server.issued row hrow).1 (not_lt.mpr hle)
  genuine := by
    intro event hevent
    cases hevent

theorem consistent_unseen {deviceId : Id16} {scope : Scope}
    {system next : System} (hconsistent : Consistent deviceId scope system)
    (hunseen : Unseen system next) : Consistent deviceId scope next where
  distinct := by
    rw [hunseen.events]
    exact hconsistent.distinct
  nonneg := by
    rw [hunseen.reader]
    exact hconsistent.nonneg
  complete := by
    intro row hrow hcovers hlive hle
    rw [hunseen.events] at hrow
    rw [covers_congr hunseen.members] at hcovers
    rw [hunseen.reader] at hle ⊢
    apply hconsistent.complete row hrow hcovers _ hle
    exact lt_of_le_of_lt hunseen.clock hlive
  genuine := by
    rw [hunseen.events, hunseen.reader]
    exact hconsistent.genuine

theorem consistent_publish {deviceId : Id16} {scope : Scope} {row : EventRow}
    {system next : System} (hconsistent : Consistent deviceId scope system)
    (hpublish : Publishes row system next)
    (hahead : scope.covers deviceId system.db row = true →
      system.now < row.expiresAt → system.reader.after < row.eventCursor) :
    Consistent deviceId scope next where
  distinct := by
    rw [hpublish.events, List.map_append, List.map_singleton,
      ← List.concat_eq_append]
    exact hconsistent.distinct.concat hpublish.fresh
  nonneg := by
    rw [hpublish.reader]
    exact hconsistent.nonneg
  complete := by
    intro other hother hcovers hlive hle
    rw [covers_congr hpublish.members] at hcovers
    rw [hpublish.clock] at hlive
    rw [hpublish.reader] at hle ⊢
    rw [hpublish.events] at hother
    rcases List.mem_append.mp hother with hold | hnew
    · exact hconsistent.complete other hold hcovers hlive hle
    · rw [List.mem_singleton.mp hnew] at hcovers hlive hle
      exact absurd (hahead hcovers hlive) (not_lt.mpr hle)
  genuine := by
    intro event hevent
    rw [hpublish.reader] at hevent
    rw [hpublish.events, List.map_append]
    apply List.mem_append_left
    exact hconsistent.genuine event hevent

/-- Reading moves the cursor only over events the page contains. -/
theorem consistent_sync {deviceId : Id16} {scope : Scope} {limit : ℤ}
    {system : System} {events : List SyncEvent}
    (hconsistent : Consistent deviceId scope system)
    (hsync : scope.sync system.now deviceId system.reader.after limit system.db =
      .ok events) :
    Consistent deviceId scope
      { system with reader := system.reader.receive events } := by
  have hpage := sync_eq_ok hsync
  constructor
  case distinct => exact hconsistent.distinct
  case nonneg => exact le_trans hconsistent.nonneg (Paging.le_advance _ _)
  case complete =>
    intro row hrow hcovers hlive hle
    apply List.mem_append.mpr
    by_cases hold : row.eventCursor ≤ system.reader.after
    · exact .inl (hconsistent.complete row hrow hcovers hlive hold)
    right
    have hbeyond : max system.reader.after 0 < row.eventCursor := by
      rw [max_eq_left hconsistent.nonneg]
      exact not_le.mp hold
    rcases Paging.advance_cases system.reader.after (events.map SyncEvent.cursor)
      with hsame | hmoved
    · exact absurd (hle.trans_eq hsame) hold
    · obtain ⟨last, hlast, hcursor⟩ := List.mem_map.mp hmoved
      rw [hpage] at hlast ⊢
      obtain ⟨seen, hseen, rfl⟩ := List.mem_map.mp hlast
      apply List.mem_map_of_mem
      exact mem_page_of_le hconsistent.distinct hseen hrow hcovers hlive hbeyond
        (hle.trans_eq hcursor.symm)
  case genuine =>
    intro event hevent
    rcases List.mem_append.mp hevent with hold | hnew
    · exact hconsistent.genuine event hold
    · rw [hpage] at hnew
      obtain ⟨row, hrow, rfl⟩ := List.mem_map.mp hnew
      exact List.mem_map_of_mem (mem_of_mem_page hrow)

/-- A row published at or below the reader's cursor has not been returned. -/
theorem skipped_of_publish {deviceId : Id16} {scope : Scope} {row : EventRow}
    {system next : System} (hconsistent : Consistent deviceId scope system)
    (hpublish : Publishes row system next)
    (hcovers : scope.covers deviceId system.db row = true)
    (hlive : system.now < row.expiresAt)
    (hbehind : row.eventCursor ≤ system.reader.after) :
    ¬NothingSkipped deviceId scope next := by
  intro hcomplete
  have hcommitted : row ∈ next.db.groupEvents.rows := by
    rw [hpublish.events]
    exact List.mem_append_right _ (List.mem_singleton_self row)
  rw [← covers_congr hpublish.members] at hcovers
  rw [← hpublish.clock] at hlive
  rw [← hpublish.reader] at hbehind
  have hreturned := hcomplete row hcommitted hcovers hlive hbehind
  rw [hpublish.reader] at hreturned
  exact hpublish.fresh (hconsistent.genuine _ hreturned)

/-- In a run of uploads and reads, nothing is ever skipped exactly when every
upload that commits an unexpired event in the reader's scope does so above the
reader's cursor. -/
theorem nothing_skipped_iff_commits_ahead (server : Numbered) (now : Time)
    (deviceId : Id16) (scope : Scope) (labels : List Label) :
    Along (step deviceId scope) (NothingSkipped deviceId scope)
        (System.initial server now) labels ↔
      Guarded (step deviceId scope) (CommitsAhead deviceId scope)
        (System.initial server now) labels := by
  refine along_iff_guarded
    (fun system (h : Consistent deviceId scope system) => h.complete) ?_ ?_
    (initial_consistent server now deviceId scope) labels
  · intro system label hconsistent hahead
    rcases step_cases deviceId scope system label with
      ⟨-, hunseen⟩ | ⟨row, hrow, hpublish⟩ | ⟨limit, events, rfl, hsync, hstep⟩
    · exact consistent_unseen hconsistent hunseen
    · exact consistent_publish hconsistent hpublish (hahead row hrow)
    · rw [hstep]
      exact consistent_sync hconsistent hsync
  · intro system label hconsistent hbehind
    simp only [CommitsAhead, not_forall, not_lt] at hbehind
    obtain ⟨row, hrow, hcovers, hlive, hle⟩ := hbehind
    rcases step_cases deviceId scope system label with
      ⟨hnone, -⟩ | ⟨other, hother, hpublish⟩ | ⟨limit, events, rfl, -, -⟩
    · rw [hnone] at hrow
      cases hrow
    · rw [hother] at hrow
      cases hrow
      exact skipped_of_publish hconsistent hpublish hcovers hlive hle
    · cases hrow

/-- The sample group before its first event. -/
def quietServer : Numbered where
  db := Redelivery.sampleServer
  nonneg := by decide
  issued := by
    intro row hrow
    cases hrow
  distinct := List.nodup_nil

/-- An event of the group's only member. -/
def sampleEvent (identifier : UInt8) : UploadedEvent where
  eventId := FixedBytes.fill 16 identifier
  groupId := FixedBytes.fill 16 5
  authorDeviceId := FixedBytes.fill 16 3
  clientMessageId := FixedBytes.fill 16 identifier
  eventKind := 1
  ciphertext := [42]
  correlationId := none

/-- The second upload overtakes the first, and the member reads in between. -/
def overtaking : List Label :=
  [.start 1 (sampleEvent 1), .start 2 (sampleEvent 2),
    .proceed 1, .proceed 2, .proceed 1, .proceed 2, .proceed 1, .proceed 2,
    .proceed 2, .sync 50, .proceed 1]

/-- The first event is committed below the cursor the member has read to. -/
theorem overtaken_event_skipped :
    ¬NothingSkipped (FixedBytes.fill 16 3) (.group (FixedBytes.fill 16 5))
      (run (step (FixedBytes.fill 16 3) (.group (FixedBytes.fill 16 5)))
        (System.initial quietServer 0) overtaking) := by
  intro hcomplete
  have hreturned := hcomplete ((sampleEvent 1).row 0 1) (by decide +kernel)
    (by decide +kernel) (by decide +kernel) (by decide +kernel)
  revert hreturned
  decide +kernel

/-! ## Uploads on their own -/

/-- An upload that passes the checks takes a number and inserts its row under
it, or loses only the number. -/
theorem uploadEvent_of_new {now : Time} {event : UploadedEvent} {db : Database}
    (hsize : ¬(event.ciphertext = [] ∨ 65536 < event.ciphertext.length))
    (hnew : checkUpload event db = .ok none) :
    (uploadEvent now event db).2 =
      (Database.insertEvent { db with eventSequence := db.eventSequence + 1 }
        (event.row now (db.eventSequence + 1))).toOption.getD
          { db with eventSequence := db.eventSequence + 1 } := by
  rw [uploadEvent, if_neg hsize, hnew]
  cases hinsert : Database.insertEvent
      { db with eventSequence := db.eventSequence + 1 }
      (event.row now (db.eventSequence + 1)) with
  | error failure =>
      simp only [transaction, hinsert]
      rfl
  | ok stored =>
      simp only [transaction, hinsert]
      rfl

theorem uploadEvent_of_not_new {now : Time} {event : UploadedEvent}
    {db : Database} (hcheck : checkUpload event db ≠ .ok none) :
    (uploadEvent now event db).2 = db := by
  unfold uploadEvent
  split
  · rfl
  · split
    case h_1 | h_2 => rfl
    case h_3 hnew => exact absurd hnew hcheck

/-- What an upload leaves in the event table and the sequence. -/
theorem uploadEvent_cases (now : Time) (event : UploadedEvent) (db : Database) :
    (uploadEvent now event db).2 = db ∨
      ∃ groupEvents,
        (uploadEvent now event db).2 =
          { db with groupEvents, eventSequence := db.eventSequence + 1 } ∧
        (groupEvents.rows = db.groupEvents.rows ∨
          groupEvents.rows = db.groupEvents.rows ++
            [event.row now (db.eventSequence + 1)]) := by
  rcases Redelivery.uploadEvent_outcomes now event db with ⟨failure, houtcome⟩ |
    ⟨-, ⟨cursor, -, houtcome⟩ | ⟨-, ⟨failure, -, houtcome⟩ |
      ⟨inserted, hinsert, houtcome⟩⟩⟩
  · exact .inl (congrArg Prod.snd houtcome)
  · exact .inl (congrArg Prod.snd houtcome)
  · rw [houtcome]
    exact .inr ⟨db.groupEvents, rfl, .inl rfl⟩
  · rw [houtcome]
    obtain ⟨groupEvents, rfl, hrows, -⟩ := Database.insertEvent_eq_ok hinsert
    exact .inr ⟨groupEvents, rfl, .inr hrows⟩

/-- Appending the sequence's next number keeps the numbering. -/
def Numbered.append (server : Numbered) (groupEvents : Table EventRow.eventId)
    (row : EventRow) (hcursor : row.eventCursor = server.db.eventSequence + 1)
    (hrows : groupEvents.rows = server.db.groupEvents.rows ∨
      groupEvents.rows = server.db.groupEvents.rows ++ [row]) : Numbered where
  db := { server.db with
    groupEvents, eventSequence := server.db.eventSequence + 1 }
  nonneg := by
    have hnonneg := server.nonneg
    dsimp only
    omega
  issued := by
    have hnonneg := server.nonneg
    intro other hother
    dsimp only at hother ⊢
    have hold (hmem : other ∈ server.db.groupEvents.rows) :
        0 < other.eventCursor ∧
          other.eventCursor ≤ server.db.eventSequence + 1 := by
      have hissued := server.issued other hmem
      omega
    rcases hrows with hsame | happend
    · rw [hsame] at hother
      exact hold hother
    · rw [happend] at hother
      rcases List.mem_append.mp hother with hmem | hnew
      · exact hold hmem
      · rw [List.mem_singleton.mp hnew]
        omega
  distinct := by
    dsimp only
    rcases hrows with hsame | happend
    · rw [hsame]
      exact server.distinct
    · rw [happend, List.map_append, List.map_singleton, ← List.concat_eq_append]
      apply server.distinct.concat
      intro htaken
      obtain ⟨other, hother, hequal⟩ := List.mem_map.mp htaken
      have hissued := server.issued other hother
      omega

/-- The numbering survives every upload. -/
theorem uploadEvent_numbered (server : Numbered) (now : Time)
    (event : UploadedEvent) :
    ∃ next : Numbered, next.db = (uploadEvent now event server.db).2 := by
  rcases uploadEvent_cases now event server.db with hsame | ⟨groupEvents, hnext, hrows⟩
  · exact ⟨server, hsame.symm⟩
  · exact ⟨server.append groupEvents (event.row now (server.db.eventSequence + 1))
      rfl hrows, hnext.symm⟩

/-- The system with one upload in flight. -/
def System.alone (system : System) (upload : Upload) : System :=
  { system with uploads := ⟨[upload], List.nodup_singleton _⟩ }

theorem step_alone (deviceId : Id16) (scope : Scope) (system : System)
    (upload : Upload) :
    step deviceId scope (system.alone upload) (.proceed upload.transaction) =
      (system.alone upload).proceed upload := by
  simp [step, System.alone, Table.lookup]

theorem reach_alone (system : System) (upload : Upload) (progress : Progress) :
    (system.alone upload).reach upload.transaction progress =
      system.alone { upload with progress } := by
  simp [System.reach, System.alone, Table.modify, Table.update]

theorem finish_alone (system : System) (upload : Upload) :
    (system.alone upload).finish upload.transaction =
      { system with uploads := Table.empty } := by
  simp [System.finish, System.alone, Table.erase, Table.delete, Table.empty]

theorem run_idle (deviceId : Id16) (scope : Scope) (system : System)
    (transaction count : ℕ) (hidle : system.uploads = Table.empty) :
    run (step deviceId scope) system
      (List.replicate count (.proceed transaction)) = system := by
  have hstep : step deviceId scope system (.proceed transaction) = system := by
    simp [step, hidle]
  induction count with
  | zero => rfl
  | succ count ih => rw [List.replicate_succ, run_cons, hstep, ih]

/-- From its number on, an upload that nothing interrupts inserts its row or
fails. -/
theorem insertion_alone (deviceId : Id16) (scope : Scope) (system : System)
    (upload : Upload) (cursor : ℤ)
    (hnumbered : upload.progress = .numbered cursor) :
    (run (step deviceId scope) (system.alone upload)
      (List.replicate 2 (.proceed upload.transaction))).db =
      (system.db.insertEvent (upload.row cursor)).toOption.getD system.db := by
  rw [List.replicate_succ, run_cons, step_alone]
  cases hinsert : system.db.insertEvent (upload.row cursor) with
  | error failure =>
      have hfailed : (system.alone upload).proceed upload =
          { system with uploads := Table.empty } := by
        rw [← finish_alone system upload]
        simp only [System.proceed, System.alone, hnumbered, hinsert]
      rw [hfailed, run_idle deviceId scope _ upload.transaction 1 rfl]
      rfl
  | ok db =>
      have hwritten : (system.alone upload).proceed upload =
          system.alone { upload with progress := .written cursor } := by
        have hfree : (system.alone upload).blocked (upload.row cursor) = false := by
          simp [System.blocked, System.alone, Upload.uncommitted, hnumbered]
        have hdb : (system.alone upload).db = system.db := rfl
        rw [← reach_alone system upload (.written cursor)]
        simp only [System.proceed, hnumbered, hdb, hinsert, hfree, if_false,
          Bool.false_eq_true]
      rw [hwritten, List.replicate_one, run_cons,
        step_alone deviceId scope system { upload with progress := .written cursor }]
      have hsame : Upload.row { upload with progress := .written cursor } cursor =
          upload.row cursor := rfl
      simp only [System.proceed, System.alone, hsame, hinsert]
      rfl

/-- The statements of an upload that nothing interrupts amount to
`upload_event`. -/
theorem uninterrupted_upload (deviceId : Id16) (scope : Scope) (system : System)
    (transaction : ℕ) (event : UploadedEvent)
    (halone : system.uploads = Table.empty) :
    (run (step deviceId scope) system
      (.start transaction event :: List.replicate 4 (.proceed transaction))).db =
      (uploadEvent system.now event system.db).2 := by
  by_cases hsize : event.ciphertext = [] ∨ 65536 < event.ciphertext.length
  · have hstart : step deviceId scope system (.start transaction event) = system :=
      if_pos hsize
    rw [run_cons, hstart, run_idle deviceId scope system transaction 4 halone,
      uploadEvent, if_pos hsize]
  let upload : Upload := ⟨transaction, system.now, event, .started⟩
  have hstart : step deviceId scope system (.start transaction event) =
      system.alone upload := by
    rw [step, System.start, if_neg hsize, halone]
    rfl
  rw [run_cons, hstart, List.replicate_succ, run_cons,
    step_alone deviceId scope system upload]
  by_cases hcheck : checkUpload event system.db = .ok none
  · let cursor := system.db.eventSequence + 1
    let numbered : System :=
      { system with db := { system.db with eventSequence := cursor } }
    have hchecked : (system.alone upload).proceed upload =
        system.alone { upload with progress := .checked } := by
      rw [← reach_alone system upload .checked]
      simp only [System.proceed, System.alone, upload, hcheck]
    have hnumbered : (system.alone { upload with progress := .checked }).proceed
        { upload with progress := .checked } =
        numbered.alone { upload with progress := .numbered cursor } :=
      reach_alone numbered { upload with progress := .checked } _
    rw [hchecked, List.replicate_succ, run_cons,
      step_alone deviceId scope system { upload with progress := .checked },
      hnumbered, insertion_alone deviceId scope numbered
        { upload with progress := .numbered cursor } cursor rfl,
      uploadEvent_of_new hsize hcheck]
    rfl
  · have hrefused : (system.alone upload).proceed upload =
        { system with uploads := Table.empty } := by
      rw [← finish_alone system upload]
      unfold System.proceed
      dsimp only [upload]
      split
      case h_1 hnew => exact absurd hnew hcheck
      case h_2 => rfl
    rw [hrefused, run_idle deviceId scope _ transaction 3 rfl,
      uploadEvent_of_not_new hcheck]

end ResilientMessenger.CursorVisibility
