import ResilientMessenger.Crypto.Snapshots

/-!
# Restoring into an engine that is in use

An import replaces the store and the signer as a whole, while the groups the
engine holds in memory stay.  So a snapshot of one conversation takes the entries
of all the others back to where they were when it was made, and an import that
fails at its last step has replaced everything by then.  Both happen exactly when
the snapshot differs from the engine.
-/

namespace ResilientMessenger.Restores

open ResilientMessenger.ByteCodec
open ResilientMessenger.Engine
open ResilientMessenger.Contexts
open ResilientMessenger.Snapshots

variable {mls : OpenMls} (library : SnapshotLibrary mls)

/-- The group of the snapshot is found in its store. -/
def Loads (snapshot : Snapshot mls) : Prop :=
  ∃ group, library.load snapshot.values snapshot.groupId = some (some group)

section Outcomes

variable {library} {engine after : CryptoEngine mls} {encrypted groupId : Bytes}

/-- A successful import has replaced the store and the signer. -/
theorem import_eq_ok
    (himport : importConversationState library encrypted engine = (.ok groupId, after)) :
    ∃ snapshot, Seals library engine.stateKey encrypted snapshot ∧
      Loads library snapshot ∧ snapshot.groupId = groupId ∧
      after.storage = snapshot.values ∧ after.signer = snapshot.signer := by
  rcases importConversationState_cases library encrypted engine with
    ⟨failure, -, hfailed⟩ | ⟨snapshot, hopened, ⟨group, hload, hrestored⟩ | ⟨-, hfailed⟩⟩
  · rw [himport] at hfailed
    cases hfailed
  · rw [himport] at hrestored
    cases hrestored
    exact ⟨snapshot, openSnapshot_eq_ok.mp hopened, ⟨group, hload⟩, rfl, rfl, rfl⟩
  · rw [himport] at hfailed
    cases hfailed

/-- A failed import has refused the snapshot or replaced everything but the
groups. -/
theorem import_eq_error {failure : CryptoError}
    (himport : importConversationState library encrypted engine =
      (.error failure, after)) :
    after = engine ∨ ∃ snapshot, Seals library engine.stateKey encrypted snapshot ∧
      ¬Loads library snapshot ∧ after = overwrite snapshot engine := by
  rcases importConversationState_cases library encrypted engine with
    ⟨early, -, hrefused⟩ | ⟨snapshot, hopened, ⟨group, -, hrestored⟩ | ⟨hload, hfailed⟩⟩
  · rw [himport] at hrefused
    cases hrefused
    exact .inl rfl
  · rw [himport] at hrestored
    cases hrestored
  · rw [himport] at hfailed
    cases hfailed
    refine .inr ⟨snapshot, openSnapshot_eq_ok.mp hopened, ?_, rfl⟩
    rintro ⟨group, hgroup⟩
    exact hload group hgroup

/-- The bytes are the snapshot of at most one content. -/
theorem seals_unique {key : Key} {left right : Snapshot mls}
    (hleft : Seals library key encrypted left)
    (hright : Seals library key encrypted right) : left = right := by
  have hopened := openSnapshot_eq_ok.mpr hleft
  rw [openSnapshot_eq_ok.mpr hright] at hopened
  exact (Except.ok.inj hopened).symm

theorem import_of_loads {snapshot : Snapshot mls}
    (hseals : Seals library engine.stateKey encrypted snapshot)
    (hloads : Loads library snapshot) :
    ∃ after, importConversationState library encrypted engine =
      (.ok snapshot.groupId, after) := by
  obtain ⟨group, hgroup⟩ := hloads
  simp [importConversationState, openSnapshot_eq_ok.mpr hseals, overwrite, hgroup]

theorem import_of_not_loads {snapshot : Snapshot mls}
    (hseals : Seals library engine.stateKey encrypted snapshot)
    (hloads : ¬Loads library snapshot) :
    importConversationState library encrypted engine =
      (.error .stateAuthentication, overwrite snapshot engine) := by
  rcases importConversationState_cases library encrypted engine with
    ⟨failure, hrefused, -⟩ | ⟨found, hopened, ⟨group, hgroup, -⟩ | ⟨-, hfailed⟩⟩
  · rw [openSnapshot_eq_ok.mpr hseals] at hrefused
    cases hrefused
  · rw [openSnapshot_eq_ok.mpr hseals] at hopened
    cases hopened
    exact absurd ⟨group, hgroup⟩ hloads
  · rw [openSnapshot_eq_ok.mpr hseals] at hopened
    cases hopened
    exact hfailed

end Outcomes

/-! ## The other conversations -/

section Others

variable (owner : Bytes → Option Bytes)

/-- The entries that belong to the group are the same in both stores. -/
def SameEntriesOf (groupId : Bytes) (left right : Storage) : Prop :=
  ∀ key, owner key = some groupId → left.lookup key = right.lookup key

/-- A successful import leaves the entries of the other conversations of the engine
and the signature key they use as they are. -/
def OthersKept (encrypted : Bytes) (engine : CryptoEngine mls) : Prop :=
  ∀ groupId after,
    importConversationState library encrypted engine = (.ok groupId, after) →
      ∀ other ≠ groupId, engine.groups other ≠ none →
        SameEntriesOf owner other after.storage engine.storage ∧
          after.signer = engine.signer

/-- The snapshot has the signature key of the engine and, for each of the other
conversations of the engine, the entries the engine has. -/
def UpToDate (snapshot : Snapshot mls) (engine : CryptoEngine mls) : Prop :=
  ∀ other ≠ snapshot.groupId, engine.groups other ≠ none →
    SameEntriesOf owner other snapshot.values engine.storage ∧
      snapshot.signer = engine.signer

/-- An import keeps the other conversations exactly when its snapshot is up to date
with them. -/
theorem others_kept_iff (encrypted : Bytes) (engine : CryptoEngine mls) :
    OthersKept library owner encrypted engine ↔
      ∀ snapshot, Seals library engine.stateKey encrypted snapshot →
        Loads library snapshot → UpToDate owner snapshot engine := by
  constructor
  · intro hkept snapshot hseals hloads other hother hheld
    obtain ⟨after, himport⟩ := import_of_loads hseals hloads
    obtain ⟨found, hfound, -, -, hstorage, hsigner⟩ := import_eq_ok himport
    cases seals_unique hseals hfound
    rw [← hstorage, ← hsigner]
    exact hkept snapshot.groupId after himport other hother hheld
  · intro hcurrent groupId after himport other hother hheld
    obtain ⟨snapshot, hseals, hloads, rfl, hstorage, hsigner⟩ := import_eq_ok himport
    rw [hstorage, hsigner]
    exact hcurrent snapshot hseals hloads other hother hheld

end Others

def oneConversation : CryptoEngine shelf :=
  (perform (.createConversation [3] [1]) (newEngine [9])).2

/-- Two conversations in memory and one in the store. -/
def rolledBack : CryptoEngine shelf :=
  (importConversationState shelfLibrary (exported [1] oneConversation)
    twoConversations).2

/-- The snapshot was made before the second conversation, and restoring it removes
the entry of that conversation. -/
theorem older_snapshot_erases_conversation :
    (exportConversationState shelfLibrary (FixedBytes.fill 24 0) [1] oneConversation =
        .ok (exported [1] oneConversation)) ∧
      (importConversationState shelfLibrary (exported [1] oneConversation)
        twoConversations = (.ok [1], rolledBack)) ∧
      ¬OthersKept shelfLibrary some (exported [1] oneConversation) twoConversations := by
  have himport : importConversationState shelfLibrary (exported [1] oneConversation)
      twoConversations = (.ok [1], rolledBack) := by
    apply Prod.ext
    · decide +kernel
    · rw [rolledBack]
  refine ⟨by decide +kernel, himport, ?_⟩
  intro hkept
  have hothers := hkept [1] rolledBack himport [2] (by decide) (by decide +kernel)
  exact absurd (hothers.1 [2] rfl) (by decide +kernel)

/-! ## Failed imports -/

/-- The same contents of the store, the same signer, credential and groups. -/
structure Unchanged (engine after : CryptoEngine mls) : Prop where
  storage : SameEntries after.storage engine.storage
  signer : after.signer = engine.signer
  credential : after.credential = engine.credential
  groups : after.groups = engine.groups

def FailsCleanly (encrypted : Bytes) (engine : CryptoEngine mls) : Prop :=
  ∀ failure after,
    importConversationState library encrypted engine = (.error failure, after) →
      Unchanged engine after

/-- The snapshot says what the engine holds anyway. -/
structure SaysTheSame (snapshot : Snapshot mls) (engine : CryptoEngine mls) : Prop where
  values : SameEntries snapshot.values engine.storage
  signer : snapshot.signer = engine.signer
  identity : snapshot.identity = engine.credential.identity
  signatureKey : mls.toPublicVec snapshot.signer = engine.credential.signatureKey

theorem unchanged_overwrite_iff {snapshot : Snapshot mls} {engine : CryptoEngine mls} :
    Unchanged engine (overwrite snapshot engine) ↔ SaysTheSame snapshot engine := by
  constructor
  · rintro ⟨hstorage, hsigner, hcredential, -⟩
    exact ⟨hstorage, hsigner, congrArg CredentialWithKey.identity hcredential,
      congrArg CredentialWithKey.signatureKey hcredential⟩
  · rintro ⟨hvalues, hsigner, hidentity, hkey⟩
    refine ⟨hvalues, hsigner, ?_, rfl⟩
    calc
      (⟨snapshot.identity, mls.toPublicVec snapshot.signer⟩ : CredentialWithKey) =
          ⟨engine.credential.identity, engine.credential.signatureKey⟩ := by
        rw [hidentity, hkey]
      _ = engine.credential := rfl

/-- A failed import changes nothing exactly when its bytes are no snapshot, or one
whose group can be loaded, or one that says what the engine holds. -/
theorem fails_cleanly_iff (encrypted : Bytes) (engine : CryptoEngine mls) :
    FailsCleanly library encrypted engine ↔
      ∀ snapshot, Seals library engine.stateKey encrypted snapshot →
        Loads library snapshot ∨ SaysTheSame snapshot engine := by
  constructor
  · intro hclean snapshot hseals
    by_cases hloads : Loads library snapshot
    · exact .inl hloads
    · exact .inr (unchanged_overwrite_iff.mp
        (hclean _ _ (import_of_not_loads hseals hloads)))
  · intro hsnapshot failure after himport
    rcases import_eq_error himport with rfl | ⟨snapshot, hseals, hloads, rfl⟩
    · exact ⟨fun _ => rfl, rfl, rfl, rfl⟩
    · rcases hsnapshot snapshot hseals with hfound | hsame
      · exact absurd hfound hloads
      · exact unchanged_overwrite_iff.mpr hsame

def afterRefusal : CryptoEngine shelf :=
  (importConversationState shelfLibrary (exported [2] rolledBack) twoConversations).2

/-- The snapshot of the conversation that is not in the store is refused by an engine
that has it, which then has lost it. -/
theorem refused_snapshot_erases_conversation :
    (exportConversationState shelfLibrary (FixedBytes.fill 24 0) [2] rolledBack =
        .ok (exported [2] rolledBack)) ∧
      (importConversationState shelfLibrary (exported [2] rolledBack) twoConversations =
        (.error .stateAuthentication, afterRefusal)) ∧
      ¬FailsCleanly shelfLibrary (exported [2] rolledBack) twoConversations := by
  have himport : importConversationState shelfLibrary (exported [2] rolledBack)
      twoConversations = (.error .stateAuthentication, afterRefusal) := by
    apply Prod.ext
    · decide +kernel
    · rw [afterRefusal]
  refine ⟨by decide +kernel, himport, ?_⟩
  intro hclean
  have hsame := (hclean .stateAuthentication afterRefusal himport).storage [2]
  exact absurd hsame (by decide +kernel)

end ResilientMessenger.Restores
