import ResilientMessenger.Identity.Recovery
import ResilientMessenger.Server.Onboarding

/-!
# Stored recovery packages

The server keeps one encrypted root for an account, under an identifier that
only the phrase gives away, and hands it to anyone who knows the identifier.
`recovery_latest` says which blob that is after any run: the one stored last
under the identifier.  `deposits_owned` says that nobody but the first account
can store under it, and `recovery_restores` puts server and phrase together: the
words alone are enough to get the root back.
-/

namespace ResilientMessenger.RecoveryPackages

open ResilientMessenger.ByteCodec
open ResilientMessenger.ByteReader (decodeWith)
open ResilientMessenger.Frames
open ResilientMessenger.Identity
open ResilientMessenger.Schema
open ResilientMessenger.Backend
open ResilientMessenger.Dispatch
open ResilientMessenger.Calls
open ResilientMessenger.RequestedCalls
open ResilientMessenger.Registrations
open ResilientMessenger.Sessions (Label step)
open ResilientMessenger.Runs

/-- The label is a request that stores the blob, for a signed-in device of the
account. -/
def Deposits (crypto : Crypto) (accountId recoveryIdentifier : Id32) (blob : Bytes)
    (db : Database) : Label → Prop
  | .request request => ∃ author unread,
      request.frame.kind = .uploadEnvelope ∧
      signedIn crypto request.moment.now request.frame.body db = some (author, unread) ∧
      decodeWith UploadRequest.reader unread = .ok (.recovery recoveryIdentifier blob) ∧
      deviceAccountId author db = .ok accountId ∧
      (storeRecoveryPackage accountId recoveryIdentifier blob db).1 = .ok ()
  | _ => False

/-- An account keeps the blob under the identifier. -/
def Holding (recoveryIdentifier : Id32) (blob : Bytes) (db : Database) : Prop :=
  ∃ account ∈ db.accounts.rows,
    account.recoveryIdentifier = some recoveryIdentifier ∧
      account.recoveryBlob = some blob

/-- No two accounts have one identifier. -/
def Distinct (db : Database) : Prop :=
  ∀ left ∈ db.accounts.rows, ∀ right ∈ db.accounts.rows, ∀ recoveryIdentifier,
    left.recoveryIdentifier = some recoveryIdentifier →
      right.recoveryIdentifier = some recoveryIdentifier →
        left.accountId = right.accountId

/-- An account that has an identifier keeps it. -/
def KeepsIdentifiers (db next : Database) : Prop :=
  ∀ accountId account recoveryIdentifier, db.accounts.lookup accountId = some account →
    account.recoveryIdentifier = some recoveryIdentifier →
      ∃ later, next.accounts.lookup accountId = some later ∧
        later.recoveryIdentifier = some recoveryIdentifier

/-! ## Storing and fetching -/

section Storing

variable {crypto : Crypto} {db : Database} {accountId recoveryIdentifier : Id32}
variable {blob : Bytes}

/-- A package is stored for a known account whose slot is free or has the same
identifier, when no other account has it. -/
structure Stores (accountId recoveryIdentifier : Id32) (blob : Bytes)
    (db next : Database) (account : AccountRow) : Prop where
  known : db.accounts.lookup accountId = some account
  slot : ∀ found, account.recoveryIdentifier = some found → found = recoveryIdentifier
  free : ∀ other ∈ db.accounts.rows,
    other.recoveryIdentifier = some recoveryIdentifier → other.accountId = accountId
  accounts : ∀ key, next.accounts.lookup key =
    if key = accountId then some (withRecovery recoveryIdentifier blob account)
    else db.accounts.lookup key

theorem storeRecoveryPackage_cases (accountId recoveryIdentifier : Id32) (blob : Bytes)
    (db : Database) :
    (∃ failure, storeRecoveryPackage accountId recoveryIdentifier blob db =
      (.error failure, db)) ∨
    ∃ next account, storeRecoveryPackage accountId recoveryIdentifier blob db =
      (.ok (), next) ∧ Stores accountId recoveryIdentifier blob db next account := by
  unfold storeRecoveryPackage
  split_ifs with hsize hslot htaken
  · exact .inl ⟨_, rfl⟩
  · exact .inl ⟨_, rfl⟩
  · exact .inl ⟨_, rfl⟩
  · right
    cases hlookup : db.accounts.lookup accountId with
    | none => simp [Table.affects, hlookup] at hslot
    | some account =>
        have hclaimable : claimable recoveryIdentifier account = true := by
          simpa [Table.affects, hlookup] using hslot
        refine ⟨_, account, rfl, ?_⟩
        constructor
        · exact hlookup
        · intro found hfound
          rw [claimable, hfound] at hclaimable
          simpa using hclaimable
        · intro other hother hsame
          by_contra hne
          apply htaken
          exact List.any_eq_true.mpr ⟨other, hother, by simp [hne, hsame]⟩
        · intro key
          apply (Table.lookup_modify _ _ _ _
            (accountId_withRecovery recoveryIdentifier blob) key).trans
          rw [hlookup, Option.map_some, if_pos hclaimable]

/-- Which row the query returns does not matter when there is at most one. -/
theorem fetchRecoveryPackage_eq_some (hdistinct : Distinct db) :
    fetchRecoveryPackage recoveryIdentifier db = some blob ↔
      Holding recoveryIdentifier blob db := by
  unfold fetchRecoveryPackage Holding
  rw [Option.bind_eq_some_iff]
  constructor
  · rintro ⟨account, hfound, hblob⟩
    have hcondition := List.find?_some hfound
    simp only [decide_eq_true_eq] at hcondition
    exact ⟨account, List.mem_of_find?_eq_some hfound, hcondition.1, hblob⟩
  · rintro ⟨account, hmem, hidentifier, hblob⟩
    cases hfound : db.accounts.rows.find? fun account =>
        account.recoveryIdentifier = some recoveryIdentifier ∧
          account.recoveryBlob.isSome with
    | none =>
        have hnone := List.find?_eq_none.mp hfound account hmem
        simp [hidentifier, hblob] at hnone
    | some other =>
        have hcondition := List.find?_some hfound
        simp only [decide_eq_true_eq] at hcondition
        have hother := List.mem_of_find?_eq_some hfound
        have hsame := hdistinct other hother account hmem recoveryIdentifier hcondition.1
          hidentifier
        have hlookup := Table.mem_rows_iff.mp hother
        rw [hsame, Table.mem_rows_iff.mp hmem] at hlookup
        cases hlookup
        exact ⟨account, rfl, hblob⟩

end Storing

/-! ## What a request does to the packages -/

section Requests

variable {crypto : Crypto} {now : Time} {frame : TransportFrame} {db next : Database}
variable {recoveryIdentifier : Id32} {blob : Bytes}

theorem requested_storeRecoveryPackage {accountId : Id32} :
    requestedCall crypto now frame db =
        some (.storeRecoveryPackage accountId recoveryIdentifier blob) ↔
      ∃ author unread, frame.kind = .uploadEnvelope ∧
        signedIn crypto now frame.body db = some (author, unread) ∧
        decodeWith UploadRequest.reader unread =
          .ok (.recovery recoveryIdentifier blob) ∧
        deviceAccountId author db = .ok accountId := by
  constructor
  · intro hcall
    have hkind : frame.kind = .uploadEnvelope := kind_of_requested hcall
    simp only [requestedCall, hkind] at hcall
    obtain ⟨⟨author, unread⟩, hcaller, hcall⟩ := Option.bind_eq_some_iff.mp hcall
    obtain ⟨request, hread, hcall⟩ := Option.bind_eq_some_iff.mp hcall
    rw [toOption_eq_some] at hread
    cases request with
    | recovery identifier stored =>
        obtain ⟨owner, howner, hcall⟩ := Option.map_eq_some_iff.mp hcall
        cases hcall
        exact ⟨author, unread, hkind, hcaller, hread, toOption_eq_some.mp howner⟩
    | group groupId =>
        obtain ⟨owner, -, hcall⟩ := Option.map_eq_some_iff.mp hcall
        cases hcall
    | _ => cases hcall
  · rintro ⟨author, unread, hkind, hcaller, hread, howner⟩
    simp only [requestedCall, hkind]
    refine Option.bind_eq_some_iff.mpr ⟨(author, unread), hcaller, ?_⟩
    refine Option.bind_eq_some_iff.mpr ⟨_, toOption_eq_some.mpr hread, ?_⟩
    exact Option.map_eq_some_iff.mpr ⟨accountId, toOption_eq_some.mpr howner, rfl⟩

theorem deposits_iff {request : Request} {accountId : Id32} :
    Deposits crypto accountId recoveryIdentifier blob db (.request request) ↔
      requestedCall crypto request.moment.now request.frame db =
          some (.storeRecoveryPackage accountId recoveryIdentifier blob) ∧
        (storeRecoveryPackage accountId recoveryIdentifier blob db).1 = .ok () := by
  simp only [Deposits, requested_storeRecoveryPackage]
  constructor
  · rintro ⟨author, unread, hkind, hcaller, hread, howner, hstored⟩
    exact ⟨⟨author, unread, hkind, hcaller, hread, howner⟩, hstored⟩
  · rintro ⟨⟨author, unread, hkind, hcaller, hread, howner⟩, hstored⟩
    exact ⟨author, unread, hkind, hcaller, hread, howner, hstored⟩

/-- What the accounts go through in one step, as far as recovery is concerned. -/
inductive Change (db next : Database) (stores : Id32 → Id32 → Bytes → Prop) : Prop where
  | same (haccounts : next.accounts = db.accounts)
      (hnone : ∀ accountId identifier blob, ¬stores accountId identifier blob)
  | opened (row : AccountRow) (hrow : row.recoveryIdentifier = none)
      (hinsert : db.accounts.insert? row = some next.accounts)
      (hnone : ∀ accountId identifier blob, ¬stores accountId identifier blob)
  | stored (accountId identifier : Id32) (blob : Bytes) (account : AccountRow)
      (hstores : Stores accountId identifier blob db next account)
      (hone : ∀ other key found, stores other key found ↔
        other = accountId ∧ key = identifier ∧ found = blob)

theorem serve_change (request : Request) :
    Change db (serve crypto db request) fun accountId identifier blob =>
      Deposits crypto accountId identifier blob db (.request request) := by
  simp only [deposits_iff]
  rw [serve_requested]
  cases hcall : requestedCall crypto request.moment.now request.frame db with
  | none => exact .same rfl (by simp)
  | some call =>
      have hextent := perform_extent crypto request.moment db call
      simp only [carryOut, Option.some.injEq]
      generalize hnext : call.perform crypto request.moment db = next at hextent ⊢
      cases call with
      | registerAccountDevice accountId rootPublicKey cert =>
          rw [Call.perform] at hnext
          rcases registerAccountDevice_inserts accountId rootPublicKey cert with hsame |
            ⟨accounts, devices, deviceCertificates, hinserts, ⟨-, hclaim⟩, -⟩
          · rw [hnext] at hsame
            subst hsame
            exact .same rfl (by simp)
          · rw [hnext] at hinserts
            subst hinserts
            rcases hclaim with ⟨-, -, -, rfl⟩ | hinsert
            · exact .same rfl (by simp)
            · exact .opened _ rfl hinsert (by simp)
      | storeRecoveryPackage accountId identifier blob =>
          rw [Call.perform] at hnext
          rcases storeRecoveryPackage_cases accountId identifier blob db with
            ⟨failure, houtcome⟩ | ⟨after, account, houtcome, hstores⟩
          · rw [houtcome] at hnext
            subst hnext
            refine .same rfl ?_
            rintro _ _ _ ⟨hsame, hok⟩
            cases hsame
            rw [houtcome] at hok
            cases hok
          · rw [houtcome] at hnext
            subst hnext
            refine .stored accountId identifier blob account hstores ?_
            intro other key found
            constructor
            · rintro ⟨hsame, -⟩
              cases hsame
              exact ⟨rfl, rfl, rfl⟩
            · rintro ⟨rfl, rfl, rfl⟩
              exact ⟨rfl, by rw [houtcome]⟩
      | _ =>
          cases hextent
          exact .same rfl (by simp)

theorem step_change (label : Label) :
    Change db (step crypto db label) fun accountId identifier blob =>
      Deposits crypto accountId identifier blob db label := by
  cases label with
  | request request => exact serve_change request
  | revoke now deviceId => exact .same rfl fun _ _ _ => id
  | cleanup now batch scan => exact .same rfl fun _ _ _ => id

end Requests

/-! ## What a change means -/

section Changes

variable {db next : Database} {stores : Id32 → Id32 → Bytes → Prop}

theorem mem_stores {accountId identifier : Id32} {blob : Bytes} {account row : AccountRow}
    (hstores : Stores accountId identifier blob db next account) :
    row ∈ next.accounts.rows ↔ row = withRecovery identifier blob account ∨
      row ∈ db.accounts.rows ∧ row.accountId ≠ accountId := by
  have hkey : account.accountId = accountId := Table.key_of_lookup hstores.known
  rw [Table.mem_rows_iff, Table.mem_rows_iff, hstores.accounts]
  split
  case isTrue hsame =>
    constructor
    · rintro ⟨⟩
      exact .inl rfl
    · rintro (rfl | ⟨-, hother⟩)
      · rfl
      · exact absurd hsame hother
  case isFalse hother =>
    constructor
    · exact fun hold => .inr ⟨hold, hother⟩
    · rintro (rfl | ⟨hold, -⟩)
      · exact absurd hkey hother
      · exact hold

theorem distinct_change (hchange : Change db next stores) (hdistinct : Distinct db) :
    Distinct next := by
  intro left hleft right hright identifier hone hother
  cases hchange with
  | same haccounts hnone =>
      rw [haccounts] at hleft hright
      exact hdistinct left hleft right hright identifier hone hother
  | opened row hrow hinsert hnone =>
      rcases Table.mem_insert? hinsert hleft with hleft | rfl
      · rcases Table.mem_insert? hinsert hright with hright | rfl
        · exact hdistinct left hleft right hright identifier hone hother
        · rw [hrow] at hother
          cases hother
      · rw [hrow] at hone
        cases hone
  | stored accountId stored blob account hstores hstored =>
      have hkey : account.accountId = accountId := Table.key_of_lookup hstores.known
      rcases (mem_stores hstores).mp hleft with rfl | ⟨hleft, hleftKey⟩ <;>
        rcases (mem_stores hstores).mp hright with rfl | ⟨hright, hrightKey⟩
      · rfl
      · cases hone
        exact absurd (hstores.free right hright hother) hrightKey
      · cases hother
        exact absurd (hstores.free left hleft hone) hleftKey
      · exact hdistinct left hleft right hright identifier hone hother

theorem keepsIdentifiers_change (hchange : Change db next stores) :
    KeepsIdentifiers db next := by
  intro accountId account identifier haccount hidentifier
  cases hchange with
  | same haccounts hnone =>
      rw [haccounts]
      exact ⟨account, haccount, hidentifier⟩
  | opened row hrow hinsert hnone =>
      exact ⟨account, Table.lookup_kept hinsert haccount, hidentifier⟩
  | stored owner stored blob known hstores hstored =>
      rw [hstores.accounts]
      split
      case isTrue hsame =>
        rw [hsame, hstores.known] at haccount
        cases haccount
        refine ⟨_, rfl, ?_⟩
        rw [hstores.slot identifier hidentifier]
        rfl
      case isFalse => exact ⟨account, haccount, hidentifier⟩

theorem holding_change (hchange : Change db next stores) (identifier : Id32)
    (blob : Bytes) :
    Holding identifier blob next ↔ (∃ accountId, stores accountId identifier blob) ∨
      Holding identifier blob db ∧
        ∀ accountId other, ¬stores accountId identifier other := by
  cases hchange with
  | same haccounts hnone =>
      simp only [hnone, exists_const, false_or, not_false_eq_true, implies_true, and_true]
      rw [Holding, haccounts, Holding]
  | opened row hrow hinsert hnone =>
      simp only [hnone, exists_const, false_or, not_false_eq_true, implies_true, and_true]
      constructor
      · rintro ⟨account, haccount, hidentifier, hblob⟩
        rcases Table.mem_insert? hinsert haccount with hold | rfl
        · exact ⟨account, hold, hidentifier, hblob⟩
        · rw [hrow] at hidentifier
          cases hidentifier
      · rintro ⟨account, haccount, hidentifier, hblob⟩
        refine ⟨account, ?_, hidentifier, hblob⟩
        exact Table.mem_of_lookup (Table.lookup_kept hinsert (Table.mem_rows_iff.mp haccount))
  | stored owner stored content known hstores hstored =>
      simp only [hstored]
      constructor
      · rintro ⟨account, haccount, hidentifier, hblob⟩
        rcases (mem_stores hstores).mp haccount with rfl | ⟨hold, hother⟩
        · cases hidentifier
          cases hblob
          exact .inl ⟨owner, rfl, rfl, rfl⟩
        · refine .inr ⟨⟨account, hold, hidentifier, hblob⟩, ?_⟩
          rintro _ _ ⟨rfl, rfl, rfl⟩
          exact hother (hstores.free account hold hidentifier)
      · rintro (⟨_, rfl, rfl, rfl⟩ | ⟨⟨account, hold, hidentifier, hblob⟩, hnone⟩)
        · exact ⟨_, (mem_stores hstores).mpr (.inl rfl), rfl, rfl⟩
        · refine ⟨account, (mem_stores hstores).mpr (.inr ⟨hold, ?_⟩), hidentifier, hblob⟩
          rintro rfl
          rw [Table.mem_rows_iff, hstores.known] at hold
          cases hold
          exact hnone _ content
            ⟨rfl, hstores.slot identifier hidentifier, rfl⟩

end Changes

/-! ## Runs -/

section Histories

variable (crypto : Crypto)

theorem distinct_step (db : Database) (label : Label) (hdistinct : Distinct db) :
    Distinct (step crypto db label) :=
  distinct_change (step_change label) hdistinct

theorem distinct_migrated : Distinct Database.migrated := by
  simp [Distinct, Database.migrated, Table.empty]

theorem holding_iff_since (recoveryIdentifier : Id32) (blob : Bytes)
    (labels : List Label) :
    Holding recoveryIdentifier blob (run (step crypto) Database.migrated labels) ↔
      Since (step crypto)
        (fun db label => ∃ accountId,
          Deposits crypto accountId recoveryIdentifier blob db label)
        (fun db label => ∀ accountId other,
          ¬Deposits crypto accountId recoveryIdentifier other db label)
        Database.migrated labels := by
  apply holds_iff_since (distinct_step crypto)
  · exact fun db label _ => holding_change (step_change label) recoveryIdentifier blob
  · exact distinct_migrated
  · simp [Holding, Database.migrated, Table.empty]

/-- What is fetched under an identifier is what was stored last under it. -/
theorem recovery_latest (recoveryIdentifier : Id32) (blob : Bytes) (labels : List Label) :
    fetchRecoveryPackage recoveryIdentifier
        (run (step crypto) Database.migrated labels) = some blob ↔
      Since (step crypto)
        (fun db label => ∃ accountId,
          Deposits crypto accountId recoveryIdentifier blob db label)
        (fun db label => ∀ accountId other,
          ¬Deposits crypto accountId recoveryIdentifier other db label)
        Database.migrated labels := by
  have hdistinct : Distinct (run (step crypto) Database.migrated labels) :=
    run_invariant (distinct_step crypto) distinct_migrated labels
  rw [fetchRecoveryPackage_eq_some hdistinct]
  exact holding_iff_since crypto recoveryIdentifier blob labels

/-- A stored package leaves the identifier with the account. -/
theorem identifier_of_deposit {db : Database} {label : Label} {accountId : Id32}
    {recoveryIdentifier : Id32} {blob : Bytes}
    (hdeposits : Deposits crypto accountId recoveryIdentifier blob db label) :
    ∃ account, (step crypto db label).accounts.lookup accountId = some account ∧
      account.recoveryIdentifier = some recoveryIdentifier := by
  have hchange : Change db (step crypto db label) _ := step_change label
  cases hchange with
  | same haccounts hnone => exact absurd hdeposits (hnone _ _ _)
  | opened row hrow hinsert hnone => exact absurd hdeposits (hnone _ _ _)
  | stored owner stored content known hstores hstored =>
      obtain ⟨rfl, rfl, rfl⟩ := (hstored _ _ _).mp hdeposits
      rw [hstores.accounts, if_pos rfl]
      exact ⟨_, rfl, rfl⟩

/-- Whatever happens in between, two packages are stored under one identifier
exactly when they are stored for one account. -/
theorem deposits_owned (before middle : List Label) (first second : Label)
    (accountId otherAccount recoveryIdentifier otherIdentifier : Id32)
    (blob otherBlob : Bytes)
    (hfirst : Deposits crypto accountId recoveryIdentifier blob
      (run (step crypto) Database.migrated before) first)
    (hsecond : Deposits crypto otherAccount otherIdentifier otherBlob
      (run (step crypto) Database.migrated (before ++ first :: middle)) second) :
    recoveryIdentifier = otherIdentifier ↔ accountId = otherAccount := by
  obtain ⟨account, haccount, hidentifier⟩ := identifier_of_deposit crypto hfirst
  rw [run_append, run_cons] at hsecond
  have hkept : ∃ later,
      (run (step crypto) (step crypto (run (step crypto) Database.migrated before) first)
        middle).accounts.lookup accountId = some later ∧
      later.recoveryIdentifier = some recoveryIdentifier := by
    apply run_invariant (P := fun db : Database => ∃ later,
      db.accounts.lookup accountId = some later ∧
        later.recoveryIdentifier = some recoveryIdentifier)
    · rintro db label ⟨later, hlater, hsame⟩
      exact keepsIdentifiers_change (step_change label) accountId later
        recoveryIdentifier hlater hsame
    · exact ⟨account, haccount, hidentifier⟩
  obtain ⟨later, hlater, hsame⟩ := hkept
  generalize run (step crypto) _ middle = db at hsecond hlater
  have hchange : Change db (step crypto db second) _ := step_change second
  cases hchange with
  | same haccounts hnone => exact absurd hsecond (hnone _ _ _)
  | opened row hrow hinsert hnone => exact absurd hsecond (hnone _ _ _)
  | stored owner stored content known hstores hstored =>
      obtain ⟨rfl, rfl, rfl⟩ := (hstored _ _ _).mp hsecond
      constructor
      · rintro rfl
        rw [← hstores.free later (Table.mem_of_lookup hlater) hsame]
        exact (Table.key_of_lookup hlater).symm
      · rintro rfl
        rw [hstores.known] at hlater
        cases hlater
        exact hstores.slot recoveryIdentifier hsame

end Histories

/-! ## Two accounts that store packages -/

namespace Sample

open ResilientMessenger.Identity.SampleRecovery

/-- Hashing on the inputs of two sessions that store packages. -/
def crypto : Crypto where
  sha256 input :=
    if input = ascii "resilient/recovery-id/v1" ++ zeros.toList then zeroIdentifier
    else Onboarding.SampleNewcomer.crypto.sha256 input
  signatures := Onboarding.SampleNewcomer.crypto.signatures

def unread : Bytes := 6 :: zeroIdentifier.toList ++ package.encryptedRoot

def upload : Label :=
  .request ⟨Responses.sessionMoment, Responses.sessionFrame .uploadEnvelope
    (List.replicate 32 0 ++ unread)⟩

/-- The device stores the package. -/
theorem deposits_upload :
    Deposits crypto Responses.neutralAccount zeroIdentifier package.encryptedRoot
      (run (step crypto) Database.migrated Sessions.login) upload :=
  ⟨FixedBytes.fill 16 3, unread, rfl, by decide +kernel, by decide +kernel,
    by decide +kernel, by decide +kernel⟩

/-- The identifier of the phrase whose entropy is ones. -/
def otherIdentifier : Id32 :=
  ⟨[235, 172, 148, 130, 233, 22, 16, 46, 12, 99, 184, 208, 47, 244, 94, 69, 240, 141, 202,
    207, 79, 207, 159, 111, 3, 109, 190, 216, 225, 173, 26, 196], rfl⟩

/-- Another account registers and signs in. -/
def newcomer : List Label :=
  [.request Onboarding.SampleNewcomer.course.hello,
    .request Onboarding.SampleNewcomer.course.challenge,
    .request Onboarding.SampleNewcomer.course.answer]

def otherUnread : Bytes := 6 :: otherIdentifier.toList ++ package.encryptedRoot

def otherUpload : Label :=
  .request ⟨Onboarding.SampleNewcomer.moment, Responses.sessionFrame .uploadEnvelope
    (List.replicate 32 1 ++ otherUnread)⟩

/-- The other account stores a package of its own. -/
theorem deposits_otherUpload :
    Deposits crypto SampleInvite.rootAccountId otherIdentifier package.encryptedRoot
      (run (step crypto) Database.migrated (Sessions.login ++ upload :: newcomer))
      otherUpload :=
  ⟨Onboarding.SampleNewcomer.deviceId, otherUnread, rfl, by decide +kernel, by decide +kernel,
    by decide +kernel, by decide +kernel⟩

end Sample

theorem sample_deposits_owned :
    Deposits Sample.crypto Responses.neutralAccount SampleRecovery.zeroIdentifier
        SampleRecovery.package.encryptedRoot
        (run (step Sample.crypto) Database.migrated Sessions.login) Sample.upload ∧
      Deposits Sample.crypto SampleInvite.rootAccountId Sample.otherIdentifier
        SampleRecovery.package.encryptedRoot
        (run (step Sample.crypto) Database.migrated
          (Sessions.login ++ Sample.upload :: Sample.newcomer)) Sample.otherUpload ∧
      (SampleRecovery.zeroIdentifier = Sample.otherIdentifier ↔
        Responses.neutralAccount = SampleInvite.rootAccountId) :=
  ⟨Sample.deposits_upload, Sample.deposits_otherUpload,
    deposits_owned Sample.crypto Sessions.login Sample.newcomer Sample.upload
      Sample.otherUpload Responses.neutralAccount SampleInvite.rootAccountId
      SampleRecovery.zeroIdentifier Sample.otherIdentifier
      SampleRecovery.package.encryptedRoot SampleRecovery.package.encryptedRoot
      Sample.deposits_upload Sample.deposits_otherUpload⟩

/-! ## From the words to the root -/

section Restoring

variable (crypto : Crypto)

/-- A request for the package under an identifier. -/
def Asks (recoveryIdentifier : Id32) (frame : TransportFrame) : Prop :=
  frame.kind = .relayDirectoryRequest ∧ frame.body = 1 :: recoveryIdentifier.toList

def identifierReader : Body Id32 := do
  let operation ← Body.u8
  ByteReader.ensure (operation = 1) .invalidInput
  let recoveryIdentifier ← Body.array 32
  Body.finish
  pure recoveryIdentifier

theorem read_identifier (recoveryIdentifier : Id32) :
    decodeWith identifierReader (1 :: recoveryIdentifier.toList) =
      .ok recoveryIdentifier := by
  rw [ByteReader.decodeWith_eq_ok]
  refine ⟨[], ?_⟩
  simp only [identifierReader, ByteReader.bind_eq_ok]
  exact ⟨1, recoveryIdentifier.toList, ByteReader.byte_eq_ok.mpr rfl, (), _,
    ByteReader.ensure_eq_ok.mpr ⟨rfl, rfl⟩, recoveryIdentifier, [],
    ByteReader.array_eq_ok.mpr (List.append_nil _).symm, (), [],
    ByteReader.finish_eq_ok.mpr ⟨rfl, rfl⟩, rfl⟩

theorem dispatch_asks {moment : Moment} {db : Database} {recoveryIdentifier : Id32}
    {frame : TransportFrame} {blob : Bytes} (hasks : Asks recoveryIdentifier frame)
    (hfetch : fetchRecoveryPackage recoveryIdentifier db = some blob) :
    ∃ answer, dispatch crypto moment frame db = (.ok answer, db) ∧
      answer.kind = .relayDirectoryResponse ∧ answer.body = 1 :: 1 :: blob := by
  obtain ⟨hkind, hbody⟩ := hasks
  have hread : relayDirectoryRequest frame.body db = (.ok (1 :: 1 :: blob), db) := by
    have hreading : relayDirectoryRequest frame.body db =
        reading (decodeWith identifierReader frame.body) db _ := rfl
    rw [hreading, hbody, read_identifier]
    simp only [reading, hfetch]
  unfold dispatch
  simp only [route, hkind, hread, andThen]
  exact ⟨_, rfl, rfl, rfl⟩

/-- As long as the package made for the root is the one stored last under its
identifier, whoever has the words gets the root back from the server. -/
theorem recovery_restores (tools : RecoveryTools) (hcorrect : tools.aead.Correct)
    (hreadBack : tools.phrases.ReadBack) (random : Id32) (nonce : Nonce)
    (root : AccountRoot) (package : RecoveryPackage tools)
    (hcreated : createRecoveryPackage crypto tools random nonce root = .ok package)
    (labels : List Label)
    (hstored : Since (step crypto)
      (fun db label => ∃ accountId, Deposits crypto accountId package.recoveryIdentifier
        package.encryptedRoot db label)
      (fun db label => ∀ accountId other,
        ¬Deposits crypto accountId package.recoveryIdentifier other db label)
      Database.migrated labels) :
    ∃ phrase, tools.phrases.parse (tools.phrases.text package.phrase) = some phrase ∧
      ∀ moment frame, Asks (recoveryIdentifier crypto tools phrase) frame →
        ∃ answer blob, (dispatch crypto moment frame
            (run (step crypto) Database.migrated labels)).1 = .ok answer ∧
          answer.kind = .relayDirectoryResponse ∧ answer.body = 1 :: 1 :: blob ∧
          restoreAccountRoot tools (tools.phrases.text package.phrase) blob = .ok root := by
  obtain ⟨hphrase, hidentifier, hencrypted⟩ := createRecoveryPackage_eq_ok hcreated
  have hparse : tools.phrases.parse (tools.phrases.text package.phrase) =
      some package.phrase := by
    rw [hphrase]
    exact hreadBack random
  have hdistinct : Distinct (run (step crypto) Database.migrated labels) :=
    run_invariant (distinct_step crypto) distinct_migrated labels
  have hfetch : fetchRecoveryPackage (recoveryIdentifier crypto tools package.phrase)
      (run (step crypto) Database.migrated labels) = some package.encryptedRoot := by
    rw [fetchRecoveryPackage_eq_some hdistinct, ← hidentifier, holding_iff_since]
    exact hstored
  refine ⟨package.phrase, hparse, fun moment frame hasks => ?_⟩
  obtain ⟨answer, hanswer, hkind, hbody⟩ := dispatch_asks crypto hasks hfetch
  refine ⟨answer, package.encryptedRoot, by rw [hanswer], hkind, hbody, ?_⟩
  exact (restore_encrypted_iff hcorrect hencrypted).mpr ⟨rfl, package.phrase, hparse, rfl⟩

end Restoring

theorem sample_recovery_restores :
    ∃ phrase, SampleRecovery.phrases.parse SampleRecovery.zeroWords = some phrase ∧
      ∀ moment frame,
        Asks (recoveryIdentifier Sample.crypto SampleRecovery.tools phrase) frame →
        ∃ answer blob, (dispatch Sample.crypto moment frame
            (run (step Sample.crypto) Database.migrated
              (Sessions.login ++ [Sample.upload]))).1 = .ok answer ∧
          answer.kind = .relayDirectoryResponse ∧ answer.body = 1 :: 1 :: blob ∧
          restoreAccountRoot SampleRecovery.tools SampleRecovery.zeroWords blob =
            .ok SampleInvite.root := by
  have hcreated : createRecoveryPackage Sample.crypto SampleRecovery.tools
      SampleRecovery.zeros (FixedBytes.fill 24 0) SampleInvite.root =
        .ok SampleRecovery.package := rfl
  exact recovery_restores Sample.crypto SampleRecovery.tools Aead.transparent_correct
    SampleRecovery.phrases_readBack SampleRecovery.zeros (FixedBytes.fill 24 0)
    SampleInvite.root SampleRecovery.package hcreated (Sessions.login ++ [Sample.upload])
    ⟨Sessions.login, Sample.upload, [], rfl,
      ⟨Responses.neutralAccount, Sample.deposits_upload⟩,
      trivial⟩

end ResilientMessenger.RecoveryPackages
