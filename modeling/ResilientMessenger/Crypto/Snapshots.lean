import Mathlib.Data.List.Lex
import ResilientMessenger.Core.ByteReader
import ResilientMessenger.Core.StableSort
import ResilientMessenger.Crypto.Contexts

/-!
# Snapshots of an engine

`export_conversation_state` seals the signer, the credential and the whole store
of the provider under the state key, together with the id of one conversation.
The plaintext is a sequence of length-prefixed fields.  The parser accepts
exactly the byte strings of this form (`readSnapshot_eq_ok`), and what it reads
off an exported snapshot is what the exporting engine held.
-/

namespace ResilientMessenger.Snapshots

open ResilientMessenger.ByteCodec
open ResilientMessenger.ByteReader
open ResilientMessenger.Attempts
open ResilientMessenger.Engine
open ResilientMessenger.Contexts
open Function (update)

/-- What snapshots use of other libraries: the AEAD, the TLS codec of signature
keys and `MlsGroup::load`, which can fail or find nothing. -/
structure SnapshotLibrary (mls : OpenMls) where
  aead : Aead
  serializeSigner : mls.Signer → Option Bytes
  deserializeSigner : Bytes → Option mls.Signer
  load : Storage → (groupId : Bytes) → Option (Option mls.Group)

variable {mls : OpenMls} (library : SnapshotLibrary mls)

/-! ## Framing -/

/-- The length is cast to 32 bits. -/
def putU32 (value : ℕ) : Bytes := toBigEndian 4 value

def putBytes (value : Bytes) : Bytes := putU32 value.length ++ value

def takeU32 : Reader CryptoError ℕ := word .stateAuthentication 4

def takeBytes : Reader CryptoError Bytes := do
  let length ← takeU32
  take .stateAuthentication length

def putEntry (entry : Bytes × Bytes) : Bytes := putBytes entry.1 ++ putBytes entry.2

/-- The plaintext of a snapshot. -/
def frame (signer identity groupId : Bytes) (entries : List (Bytes × Bytes)) : Bytes :=
  putBytes signer ++ putBytes identity ++ putBytes groupId ++
    putU32 entries.length ++ entries.flatMap putEntry

def withValue (value : Bytes) (entry : Bytes × Bytes) : Bytes × Bytes := (entry.1, value)

theorem fst_withValue (value : Bytes) (entry : Bytes × Bytes) :
    (withValue value entry).1 = entry.1 := rfl

/-- `HashMap::insert`. -/
def insertValue (values : Storage) (entry : Bytes × Bytes) : Storage :=
  values.upsert entry (withValue entry.2) (fst_withValue entry.2)

def takeEntries : ℕ → Storage → Reader CryptoError Storage
  | 0, values => pure values
  | count + 1, values => do
      let key ← takeBytes
      let value ← takeBytes
      takeEntries count (insertValue values (key, value))

/-! ## Sealing -/

def stateAad : Bytes := ascii "resilient/openmls-state/v1"

def encryptState (aead : Aead) (key : Key) (nonce : Nonce) (plain : Bytes) :
    Except CryptoError Bytes :=
  match aead.encrypt key nonce stateAad plain with
  | some ciphertext => .ok (nonce.toList ++ ciphertext)
  | none => .error .stateAuthentication

def decryptState (aead : Aead) (key : Key) (blob : Bytes) : Except CryptoError Bytes :=
  if blob.length < 40 then .error .stateAuthentication
  else
    match FixedBytes.ofBytes? 24 (blob.take 24) with
    | none => .error .stateAuthentication
    | some nonce =>
        match aead.decrypt key nonce stateAad (blob.drop 24) with
        | some plain => .ok plain
        | none => .error .stateAuthentication

/-! ## Export and import -/

/-- The entries of a store in the order of their keys. -/
def sortedEntries (values : Storage) : List (Bytes × Bytes) :=
  StableSort.sortBy (fun entry => entry.1.map UInt8.toNat) values.rows

def exportConversationState (nonce : Nonce) (groupId : Bytes)
    (engine : CryptoEngine mls) : Except CryptoError Bytes :=
  if (engine.groups groupId).isNone then .error .conversationNotFound
  else
    match library.serializeSigner engine.signer with
    | none => .error (.openMls "signer serialization")
    | some signer =>
        encryptState library.aead engine.stateKey nonce
          (frame signer engine.credential.identity groupId
            (sortedEntries engine.storage))

/-- What is read off a snapshot. -/
structure Snapshot (mls : OpenMls) where
  signerBytes : Bytes
  signer : mls.Signer
  identity : Bytes
  groupId : Bytes
  values : Storage

def readSnapshot : Reader CryptoError (Snapshot mls) := do
  let signerBytes ← takeBytes
  let identity ← takeBytes
  let groupId ← takeBytes
  let count ← takeU32
  let signer ← fromResult ((library.deserializeSigner signerBytes).elim
    (.error .stateAuthentication) .ok)
  let values ← takeEntries count Table.empty
  finish .stateAuthentication
  pure ⟨signerBytes, signer, identity, groupId, values⟩

/-- The part of the import that leaves the engine alone. -/
def openSnapshot (key : Key) (encrypted : Bytes) : Except CryptoError (Snapshot mls) := do
  let plain ← decryptState library.aead key encrypted
  decodeWith (readSnapshot library) plain

/-- The store, the signer and the credential are those of the snapshot. -/
def overwrite (snapshot : Snapshot mls) (engine : CryptoEngine mls) :
    CryptoEngine mls :=
  { engine with
    storage := snapshot.values
    signer := snapshot.signer
    credential := ⟨snapshot.identity, mls.toPublicVec snapshot.signer⟩ }

/-- The group is loaded when everything is overwritten. -/
def importConversationState (encrypted : Bytes) : EngineCall mls Bytes := fun engine =>
  match openSnapshot library engine.stateKey encrypted with
  | .error failure => (.error failure, engine)
  | .ok snapshot =>
      let restored := overwrite snapshot engine
      match library.load restored.storage snapshot.groupId with
      | none => (.error .stateAuthentication, restored)
      | some none => (.error .stateAuthentication, restored)
      | some (some group) =>
          (.ok snapshot.groupId,
            { restored with
              groups := update restored.groups snapshot.groupId (some group) })

/-! ## What the parser accepts -/

/-- The length of the bytes fits in its prefix. -/
def Fits (bytes : Bytes) : Prop := bytes.length < 2 ^ 32

instance (bytes : Bytes) : Decidable (Fits bytes) :=
  inferInstanceAs (Decidable (bytes.length < 2 ^ 32))

/-- The entries can be written with their number and their lengths. -/
structure Writable (entries : List (Bytes × Bytes)) : Prop where
  count : entries.length < 2 ^ 32
  keys : ∀ entry ∈ entries, Fits entry.1
  values : ∀ entry ∈ entries, Fits entry.2

/-- The plaintext is exactly three length-prefixed fields, a count and that many
length-prefixed pairs, and the snapshot is what they say. -/
def Describes (plain : Bytes) (snapshot : Snapshot mls) : Prop :=
  ∃ entries, plain = frame snapshot.signerBytes snapshot.identity snapshot.groupId
      entries ∧
    Fits snapshot.signerBytes ∧ Fits snapshot.identity ∧ Fits snapshot.groupId ∧
    Writable entries ∧
    library.deserializeSigner snapshot.signerBytes = some snapshot.signer ∧
    snapshot.values = entries.foldl insertValue Table.empty

section Parsing

variable {library}

theorem takeU32_eq_ok {value : ℕ} {input unread : Bytes} :
    takeU32 input = .ok (value, unread) ↔
      value < 2 ^ 32 ∧ input = putU32 value ++ unread := by
  have hwidth : (256 : ℕ) ^ 4 = 2 ^ 32 := by norm_num
  rw [takeU32, word_eq_ok, hwidth, putU32]

theorem takeBytes_eq_ok {value input unread : Bytes} :
    takeBytes input = .ok (value, unread) ↔
      Fits value ∧ input = putBytes value ++ unread := by
  simp only [takeBytes, bind_eq_ok, takeU32_eq_ok, take_eq_ok]
  constructor
  · rintro ⟨length, _, ⟨hlength, rfl⟩, rfl, rfl⟩
    exact ⟨hlength, (List.append_assoc ..).symm⟩
  · rintro ⟨hfits, rfl⟩
    exact ⟨value.length, value ++ unread, ⟨hfits, List.append_assoc ..⟩, rfl, rfl⟩

/-- The loop reads as many pairs as it is told and inserts them in their order. -/
theorem takeEntries_eq_ok {count : ℕ} {values after : Storage} {input unread : Bytes} :
    takeEntries count values input = .ok (after, unread) ↔
      ∃ entries : List (Bytes × Bytes), entries.length = count ∧
        (∀ entry ∈ entries, Fits entry.1 ∧ Fits entry.2) ∧
        after = entries.foldl insertValue values ∧
        input = entries.flatMap putEntry ++ unread := by
  induction count generalizing values input with
  | zero =>
      simp only [takeEntries, pure_eq_ok, Prod.mk.injEq]
      constructor
      · rintro ⟨rfl, rfl⟩
        exact ⟨[], rfl, by simp, rfl, rfl⟩
      · rintro ⟨entries, hcount, -, hafter, hinput⟩
        rw [List.length_eq_zero_iff] at hcount
        subst hcount
        exact ⟨hafter, hinput.symm⟩
  | succ count ih =>
      simp only [takeEntries, bind_eq_ok, takeBytes_eq_ok, ih]
      constructor
      · rintro ⟨key, _, ⟨hkey, rfl⟩, value, _, ⟨hvalue, rfl⟩, entries, rfl, hfits, rfl,
          rfl⟩
        refine ⟨(key, value) :: entries, rfl, ?_, rfl, ?_⟩
        · rw [List.forall_mem_cons]
          exact ⟨⟨hkey, hvalue⟩, hfits⟩
        · simp [putEntry]
      · rintro ⟨entries, hcount, hfits, rfl, rfl⟩
        cases entries with
        | nil => cases hcount
        | cons entry entries =>
            rw [List.forall_mem_cons] at hfits
            refine ⟨entry.1, _, ⟨hfits.1.1, ?_⟩, entry.2, _, ⟨hfits.1.2, rfl⟩, entries,
              Nat.succ.inj hcount, hfits.2, rfl, rfl⟩
            simp [putEntry]

theorem readSnapshot_eq_ok {plain : Bytes} {snapshot : Snapshot mls} :
    decodeWith (readSnapshot library) plain = .ok snapshot ↔
      Describes library plain snapshot := by
  have hsigner (bytes : Bytes) (signer : mls.Signer) :
      ((library.deserializeSigner bytes).elim (.error CryptoError.stateAuthentication)
        .ok = Except.ok signer) ↔ library.deserializeSigner bytes = some signer := by
    cases library.deserializeSigner bytes <;> simp
  simp only [decodeWith_eq_ok, readSnapshot, bind_eq_ok, takeBytes_eq_ok, takeU32_eq_ok,
    fromResult_eq_ok, hsigner, takeEntries_eq_ok, finish_eq_ok, pure_eq_ok,
    Prod.mk.injEq]
  constructor
  · rintro ⟨_, signerBytes, _, ⟨hsignerBytes, rfl⟩, identity, _, ⟨hidentity, rfl⟩,
      groupId, _, ⟨hgroupId, rfl⟩, count, _, ⟨hcount, rfl⟩, signer, _, ⟨hdecoded, rfl⟩,
      values, _, ⟨entries, rfl, hfits, rfl, rfl⟩, _, _, ⟨rfl, rfl⟩, rfl, rfl⟩
    refine ⟨entries, ?_, hsignerBytes, hidentity, hgroupId,
      ⟨hcount, fun entry hentry => (hfits entry hentry).1,
        fun entry hentry => (hfits entry hentry).2⟩, hdecoded, rfl⟩
    simp [frame]
  · rintro ⟨entries, rfl, hsignerBytes, hidentity, hgroupId, hwritable, hdecoded, hvalues⟩
    refine ⟨[], snapshot.signerBytes, _, ⟨hsignerBytes, ?_⟩, snapshot.identity, _,
      ⟨hidentity, rfl⟩, snapshot.groupId, _, ⟨hgroupId, rfl⟩, entries.length, _,
      ⟨hwritable.count, rfl⟩, snapshot.signer, _, ⟨hdecoded, rfl⟩, snapshot.values, [],
      ⟨entries, rfl, fun entry hentry => ⟨hwritable.keys entry hentry,
        hwritable.values entry hentry⟩, hvalues, rfl⟩, (), [], ⟨rfl, rfl⟩, rfl, rfl⟩
    simp [frame]

end Parsing

/-! ## Imports -/

/-- Under the key, the bytes are a sealed snapshot. -/
def Seals (key : Key) (encrypted : Bytes) (snapshot : Snapshot mls) : Prop :=
  ∃ plain, decryptState library.aead key encrypted = .ok plain ∧
    Describes library plain snapshot

/-- The two stores are the same map. -/
def SameEntries (left right : Storage) : Prop := ∀ key, left.lookup key = right.lookup key

section Imports

variable {library} {engine : CryptoEngine mls} {encrypted : Bytes}

theorem openSnapshot_eq_ok {key : Key} {snapshot : Snapshot mls} :
    openSnapshot library key encrypted = .ok snapshot ↔
      Seals library key encrypted snapshot := by
  unfold openSnapshot Seals
  cases hplain : decryptState library.aead key encrypted with
  | error failure => simp [Bind.bind, Except.bind]
  | ok plain => simp [Bind.bind, Except.bind, readSnapshot_eq_ok]

/-- An import refuses the snapshot, or overwrites the engine and then loads the
group or fails to. -/
theorem importConversationState_cases (library : SnapshotLibrary mls)
    (encrypted : Bytes) (engine : CryptoEngine mls) :
    (∃ failure, openSnapshot library engine.stateKey encrypted = .error failure ∧
        importConversationState library encrypted engine = (.error failure, engine)) ∨
      ∃ snapshot, openSnapshot library engine.stateKey encrypted = .ok snapshot ∧
        ((∃ group, library.load snapshot.values snapshot.groupId = some (some group) ∧
            importConversationState library encrypted engine =
              (.ok snapshot.groupId,
                { overwrite snapshot engine with
                  groups := update engine.groups snapshot.groupId (some group) })) ∨
          ((∀ group, library.load snapshot.values snapshot.groupId ≠ some (some group)) ∧
            importConversationState library encrypted engine =
              (.error .stateAuthentication, overwrite snapshot engine))) := by
  cases hopened : openSnapshot library engine.stateKey encrypted with
  | error failure =>
      refine .inl ⟨failure, rfl, ?_⟩
      simp only [importConversationState, hopened]
  | ok snapshot =>
      refine .inr ⟨snapshot, rfl, ?_⟩
      rcases hload : library.load snapshot.values snapshot.groupId with _ | _ | group
      · refine .inr ⟨by simp, ?_⟩
        simp only [importConversationState, hopened, overwrite, hload]
      · refine .inr ⟨by simp, ?_⟩
        simp only [importConversationState, hopened, overwrite, hload]
      · refine .inl ⟨group, rfl, ?_⟩
        simp only [importConversationState, hopened, overwrite, hload]

end Imports

/-! ## A library that keeps its groups in the store -/

/-- The store has an entry for each group, under the id of the group. -/
def shelf : OpenMls :=
  { ledger with
    newWithGroupId := fun entropy _ groupId _ storage =>
      (some ⟨⟨groupId.headD 0, entropy.headD 0, []⟩, none⟩,
        insertValue storage (groupId, [entropy.headD 0])) }

def loadShelf (storage : Storage) (groupId : Bytes) : Option (Option Ledger.Group) :=
  match storage.lookup groupId with
  | none => some none
  | some (_, [origin]) => some (some ⟨⟨groupId.headD 0, origin, []⟩, none⟩)
  | some _ => none

def serializeShelfSigner (signer : Bytes) : Option Bytes :=
  if signer.length < 2 ^ 32 then some signer else none

def shelfLibrary : SnapshotLibrary shelf where
  aead := Aead.transparent
  serializeSigner := serializeShelfSigner
  deserializeSigner := fun bytes => some bytes
  load := loadShelf

def sampleMember : MemberCredential :=
  ⟨FixedBytes.fill 16 1, FixedBytes.fill 32 1, FixedBytes.fill 16 1⟩

/-- A new engine whose signature key is `entropy`. -/
def newEngine (entropy : Bytes) : CryptoEngine shelf where
  storage := Table.empty
  signer := entropy
  credential := ⟨sampleMember.encode, entropy⟩
  groups := fun _ => none
  stateKey := FixedBytes.fill 32 7

/-- The snapshot of a conversation, if the engine holds it. -/
def exported (groupId : Bytes) (engine : CryptoEngine shelf) : Bytes :=
  (exportConversationState shelfLibrary (FixedBytes.fill 24 0) groupId
    engine).toOption.getD []

/-- An engine with two conversations. -/
def twoConversations : CryptoEngine shelf :=
  (perform (.createConversation [4] [2])
    (perform (.createConversation [3] [1]) (newEngine [9])).2).2

end ResilientMessenger.Snapshots
