import ResilientMessenger.Crypto.Snapshots

/-!
# Restarts

What an engine exports is what another engine with the same state key imports:
the signer, the credential, the id of the conversation and every entry of the
store.  The prefixes of the framing hold 32 bits; `Bounded` says that no call
gives an engine an identity or a group id that does not fit.
-/

namespace ResilientMessenger.Restarts

open ResilientMessenger.ByteCodec
open ResilientMessenger.ByteReader
open ResilientMessenger.Attempts
open ResilientMessenger.Engine
open ResilientMessenger.Contexts
open ResilientMessenger.Snapshots

variable {mls : OpenMls} (library : SnapshotLibrary mls)

/-! ## Engines that can be exported -/

/-- The engine is the result of calls on a new one. -/
inductive Reachable : CryptoEngine mls → Prop where
  | initialized {entropy : Bytes} {member : MemberCredential} {stateKey : Key}
      {engine : CryptoEngine mls}
      (hnew : initializeCryptoStore mls entropy member stateKey = .ok engine) :
      Reachable engine
  | performed {engine : CryptoEngine mls} (hengine : Reachable engine)
      (operation : Operation) : Reachable (perform operation engine).2
  | imported {engine : CryptoEngine mls} (hengine : Reachable engine)
      (encrypted : Bytes) : Reachable (importConversationState library encrypted engine).2

/-- What is relied upon.  The lengths are bounded by the variable-size vectors of
the MLS presentation language, which hold less than 2^30 octets. -/
structure Laws : Prop where
  decrypt_encrypt : ∀ {key nonce aad message ciphertext},
    library.aead.encrypt key nonce aad message = some ciphertext →
      library.aead.decrypt key nonce aad ciphertext = some message
  tag_length : ∀ {key nonce aad message ciphertext},
    library.aead.encrypt key nonce aad message = some ciphertext →
      16 ≤ ciphertext.length
  deserialize_serialize : ∀ {signer bytes}, library.serializeSigner signer = some bytes →
    library.deserializeSigner bytes = some signer
  fits_signer : ∀ {signer bytes}, library.serializeSigner signer = some bytes → Fits bytes
  fits_groupId : ∀ group, Fits (mls.groupId group)

/-- The identity and the ids of the groups fit in a snapshot. -/
structure Bounded (engine : CryptoEngine mls) : Prop where
  identity : Fits engine.credential.identity
  groups : ∀ groupId, engine.groups groupId ≠ none → Fits groupId

section Bounds

variable {α : Type} {groupId : Bytes}

theorem Bounded.update {engine : CryptoEngine mls} (hengine : Bounded engine)
    (hgroupId : Fits groupId) (storage : Storage) (entry : Option mls.Group) :
    Bounded { engine with
      storage, groups := Function.update engine.groups groupId entry } := by
  refine ⟨hengine.identity, ?_⟩
  intro other hother
  by_cases hsame : other = groupId
  · rw [hsame]
    exact hgroupId
  · exact hengine.groups other (by simpa [hsame] using hother)

theorem bounded_insertGroup (hgroupId : Fits groupId) (group : mls.Group) :
    Triple Bounded (insertGroup groupId group) (fun _ => Bounded) Bounded := by
  intro engine hengine
  exact ends_of_ok (hengine.update hgroupId engine.storage (some group))

theorem bounded_onStorage {failure : CryptoError}
    {operation : CryptoEngine mls → Storage → Option α × Storage} :
    Triple Bounded (attempt failure (onStorage operation)) (fun _ => Bounded)
      Bounded := by
  apply triple_attempt
  · intro engine value hengine _
    exact ⟨hengine.identity, hengine.groups⟩
  · intro engine hengine _
    exact ⟨hengine.identity, hengine.groups⟩

/-- Whatever a call does with a group, the engine holds the groups it held. -/
theorem bounded_onGroup {body : mls.Signer → GroupCall mls α} :
    Triple Bounded (onGroup groupId body) (fun _ => Bounded) Bounded := by
  intro engine hengine
  cases hgroup : engine.groups groupId with
  | none =>
      rw [onGroup_of_none hgroup]
      exact ends_of_error hengine
  | some group =>
      have hheld : Fits groupId := hengine.groups groupId (by simp [hgroup])
      rw [onGroup_of_some hgroup]
      constructor
      · intro value after hpair
        rw [← (Prod.mk.inj hpair).2]
        exact hengine.update hheld _ _
      · intro failure after hpair
        rw [← (Prod.mk.inj hpair).2]
        exact hengine.update hheld _ _

theorem bounded_need {failure : CryptoError} {value : Option α} :
    Triple Bounded (need failure value : EngineCall mls α) (fun _ => Bounded)
      Bounded :=
  triple_need (fun _ _ hengine _ => hengine) (fun _ hengine => hengine)

theorem bounded_generateKeyPackages (entropy : ℕ → Bytes) (count : ℕ) :
    Triple Bounded (generateKeyPackages entropy count : EngineCall mls (List Bytes))
      (fun _ => Bounded) Bounded := by
  unfold generateKeyPackages
  generalize min count 100 = total
  induction total with
  | zero => exact triple_pure fun _ hengine => hengine
  | succ total ih =>
      apply triple_bind ih
      intro packages
      apply triple_bind (Q := fun _ => Bounded)
      · exact triple_bind bounded_onStorage fun _ => bounded_need
      · intro package
        exact triple_pure fun _ hengine => hengine

theorem bounded_createConversation (entropy groupId : Bytes) :
    Triple Bounded (createConversation entropy groupId : EngineCall mls Unit)
      (fun _ => Bounded) Bounded := by
  apply triple_bind (Q := fun _ engine => Bounded engine ∧ Fits groupId)
  · apply triple_need _ fun _ hengine => hengine
    intro engine found hengine hfound
    have hlength : ¬(groupId = [] ∨ 255 < groupId.length) := by
      intro hrefused
      rw [if_pos hrefused] at hfound
      cases hfound
    refine ⟨hengine, ?_⟩
    rw [not_or] at hlength
    unfold Fits
    omega
  · intro _ engine hengine
    refine triple_bind bounded_onStorage ?_ engine hengine.1
    intro group
    exact bounded_insertGroup hengine.2 group

theorem bounded_joinConversationFromWelcome
    (hgroupId : ∀ group, Fits (mls.groupId group)) (welcome : Bytes) :
    Triple Bounded (joinConversationFromWelcome welcome : EngineCall mls Bytes)
      (fun _ => Bounded) Bounded := by
  apply triple_bind bounded_need
  intro message
  apply triple_bind bounded_need
  intro invitation
  apply triple_bind bounded_onStorage
  intro group
  apply triple_bind (bounded_insertGroup (hgroupId group) group)
  intro _
  exact triple_pure fun _ hengine => hengine

theorem bounded_destroyLocalConversationState (groupId : Bytes) :
    Triple Bounded (destroyLocalConversationState groupId : EngineCall mls Unit)
      (fun _ => Bounded) Bounded := by
  intro engine hengine
  unfold destroyLocalConversationState
  cases hgroup : engine.groups groupId with
  | none =>
      exact ends_of_error hengine
  | some group =>
      have hheld : Fits groupId := hengine.groups groupId (by simp [hgroup])
      exact bounded_onStorage _ (hengine.update hheld engine.storage none)

theorem bounded_perform (hgroupId : ∀ group, Fits (mls.groupId group))
    {engine : CryptoEngine mls} (hengine : Bounded engine) (operation : Operation) :
    Bounded (perform operation engine).2 := by
  cases operation with
  | generateKeyPackages entropy count =>
      exact (bounded_generateKeyPackages entropy count).after hengine
  | createConversation entropy groupId =>
      exact (bounded_createConversation entropy groupId).after hengine
  | joinConversationFromWelcome welcome =>
      exact (bounded_joinConversationFromWelcome hgroupId welcome).after hengine
  | commitAddMembers entropy groupId keyPackages =>
      exact (triple_bind bounded_need fun _ => bounded_onGroup).after hengine
  | commitRemoveMembers entropy groupId member => exact bounded_onGroup.after hengine
  | selfUpdate entropy groupId => exact bounded_onGroup.after hengine
  | proposeAddMembers entropy groupId keyPackage =>
      exact (triple_bind bounded_need fun _ => bounded_onGroup).after hengine
  | proposeRemoveMembers entropy groupId member => exact bounded_onGroup.after hengine
  | encryptApplicationMessage entropy groupId plaintext =>
      exact bounded_onGroup.after hengine
  | processIncomingMessage groupId ciphertext =>
      refine (triple_bind bounded_need fun _ => ?_).after hengine
      exact triple_bind bounded_need fun _ => bounded_onGroup
  | destroyLocalConversationState groupId =>
      exact (bounded_destroyLocalConversationState groupId).after hengine

end Bounds

section Imports

variable {library} {engine : CryptoEngine mls} {encrypted : Bytes}

theorem bounded_import (hengine : Bounded engine) :
    Bounded (importConversationState library encrypted engine).2 := by
  rcases importConversationState_cases library encrypted engine with
    ⟨failure, -, himport⟩ | ⟨snapshot, hopened, hrestored⟩
  · rw [himport]
    exact hengine
  · obtain ⟨plain, -, entries, -, -, hidentity, hgroupId, -⟩ :=
      openSnapshot_eq_ok.mp hopened
    have hoverwritten : Bounded (overwrite snapshot engine) :=
      ⟨hidentity, hengine.groups⟩
    rcases hrestored with ⟨group, -, himport⟩ | ⟨-, himport⟩
    · rw [himport]
      exact hoverwritten.update hgroupId snapshot.values (some group)
    · rw [himport]
      exact hoverwritten

theorem bounded_of_reachable (hlaws : Laws library)
    (hengine : Reachable library engine) : Bounded engine := by
  induction hengine with
  | @initialized entropy member stateKey engine hnew =>
      unfold initializeCryptoStore at hnew
      split at hnew
      · cases hnew
      split at hnew
      · cases hnew
      cases hnew
      refine ⟨?_, fun groupId hheld => absurd rfl hheld⟩
      simp [Fits, MemberCredential.encode]
  | performed _ operation ih => exact bounded_perform hlaws.fits_groupId ih operation
  | imported _ encrypted ih => exact bounded_import ih

end Imports

/-! ## Round trip -/

/-- The snapshot says what the engine holds. -/
structure TakenFrom (engine : CryptoEngine mls) (groupId : Bytes)
    (snapshot : Snapshot mls) : Prop where
  signerBytes : library.serializeSigner engine.signer = some snapshot.signerBytes
  signer : snapshot.signer = engine.signer
  identity : snapshot.identity = engine.credential.identity
  groupId : snapshot.groupId = groupId
  values : SameEntries snapshot.values engine.storage

section RoundTrip

variable {library}

theorem decryptState_encryptState (hlaws : Laws library) {key : Key} {nonce : Nonce}
    {plain blob : Bytes}
    (hencrypt : encryptState library.aead key nonce plain = .ok blob) :
    decryptState library.aead key blob = .ok plain := by
  unfold encryptState at hencrypt
  cases hsealed : library.aead.encrypt key nonce stateAad plain with
  | none =>
      rw [hsealed] at hencrypt
      cases hencrypt
  | some ciphertext =>
      rw [hsealed] at hencrypt
      cases hencrypt
      obtain ⟨hlength, hnonce, hrest⟩ :=
        Aead.split_sealed nonce (hlaws.tag_length hsealed)
      simp only [decryptState, if_neg hlength, hnonce, hrest,
        hlaws.decrypt_encrypt hsealed]

/-- Entries with different keys are all kept. -/
theorem rows_foldl_insertValue {entries : List (Bytes × Bytes)} {values : Storage}
    (hnodup : ((values.rows ++ entries).map Prod.fst).Nodup) :
    (entries.foldl insertValue values).rows = values.rows ++ entries := by
  induction entries generalizing values with
  | nil => simp
  | cons entry entries ih =>
      have hfree : values.lookup entry.1 = none := by
        rw [Table.lookup_eq_none_iff]
        rw [List.map_append, List.nodup_append] at hnodup
        intro htaken
        exact hnodup.2.2 entry.1 htaken entry.1 (by simp) rfl
      obtain ⟨inserted, hinsert⟩ := Table.exists_insert? hfree
      have hrows : (insertValue values entry).rows = values.rows ++ [entry] := by
        rw [insertValue, Table.upsert, hinsert]
        exact (Table.insert?_eq_some_iff.mp hinsert).2
      rw [List.foldl_cons, ih (by simpa [hrows] using hnodup), hrows]
      simp

/-- The entries of a store, sorted, written and read back, are the store. -/
theorem sameEntries_sortedEntries (values : Storage) :
    SameEntries ((sortedEntries values).foldl insertValue Table.empty) values := by
  have hperm : (sortedEntries values).Perm values.rows := StableSort.perm_sortBy _ _
  have hnodup : ((sortedEntries values).map Prod.fst).Nodup :=
    (hperm.map Prod.fst).nodup_iff.mpr values.nodup
  have hrows : ((sortedEntries values).foldl insertValue Table.empty).rows =
      sortedEntries values := rows_foldl_insertValue hnodup
  intro key
  ext entry
  rw [Table.lookup_eq_some_iff, Table.lookup_eq_some_iff, hrows, hperm.mem_iff]

theorem exportConversationState_eq_ok {engine : CryptoEngine mls} {nonce : Nonce}
    {groupId blob : Bytes}
    (hexport : exportConversationState library nonce groupId engine = .ok blob) :
    engine.groups groupId ≠ none ∧ ∃ signer,
      library.serializeSigner engine.signer = some signer ∧
      encryptState library.aead engine.stateKey nonce
        (frame signer engine.credential.identity groupId
          (sortedEntries engine.storage)) = .ok blob := by
  unfold exportConversationState at hexport
  split at hexport
  · cases hexport
  case isFalse hheld =>
    split at hexport
    · cases hexport
    case h_2 signer hsigner =>
      refine ⟨?_, signer, hsigner, hexport⟩
      intro hnone
      rw [hnone] at hheld
      exact hheld rfl

/-- What an exported snapshot says under the state key. -/
theorem openSnapshot_export (hlaws : Laws library) {engine : CryptoEngine mls}
    (hengine : Bounded engine) (hwritable : Writable engine.storage.rows) {nonce : Nonce}
    {groupId blob : Bytes}
    (hexport : exportConversationState library nonce groupId engine = .ok blob) :
    ∃ snapshot, openSnapshot library engine.stateKey blob = .ok snapshot ∧
      TakenFrom library engine groupId snapshot := by
  obtain ⟨hheld, signer, hsigner, hencrypt⟩ := exportConversationState_eq_ok hexport
  have hperm : (sortedEntries engine.storage).Perm engine.storage.rows :=
    StableSort.perm_sortBy _ _
  have hentries : Writable (sortedEntries engine.storage) := by
    constructor
    · rw [hperm.length_eq]
      exact hwritable.count
    · intro entry hentry
      exact hwritable.keys entry (hperm.mem_iff.mp hentry)
    · intro entry hentry
      exact hwritable.values entry (hperm.mem_iff.mp hentry)
  refine ⟨⟨signer, engine.signer, engine.credential.identity, groupId,
    (sortedEntries engine.storage).foldl insertValue Table.empty⟩, ?_, ?_⟩
  · exact openSnapshot_eq_ok.mpr ⟨_, decryptState_encryptState hlaws hencrypt,
      sortedEntries engine.storage, rfl, hlaws.fits_signer hsigner, hengine.identity,
      hengine.groups groupId hheld, hentries, hlaws.deserialize_serialize hsigner, rfl⟩
  · exact ⟨hsigner, rfl, rfl, rfl, sameEntries_sortedEntries engine.storage⟩

/-- Whether the group is found or not, the engine takes over the snapshot. -/
theorem import_overwrites {engine : CryptoEngine mls} {encrypted : Bytes}
    {snapshot : Snapshot mls}
    (hopened : openSnapshot library engine.stateKey encrypted = .ok snapshot) :
    { (importConversationState library encrypted engine).2 with
        groups := engine.groups } = overwrite snapshot engine := by
  rcases importConversationState_cases library encrypted engine with
    ⟨failure, hrefused, -⟩ | ⟨found, hfound, ⟨group, -, himport⟩ | ⟨-, himport⟩⟩
  · rw [hopened] at hrefused
    cases hrefused
  · rw [hopened] at hfound
    cases hfound
    rw [himport]
    rfl
  · rw [hopened] at hfound
    cases hfound
    rw [himport]
    rfl

end RoundTrip

/-- A snapshot of any engine, imported by any engine with the same state key, is
read back as it was written and replaces what the importing engine holds; and the
parser accepts nothing but plaintexts of this form. -/
theorem snapshot_round_trip (hlaws : Laws library) :
    (∀ (engine other : CryptoEngine mls) (nonce : Nonce) (groupId blob : Bytes),
      Reachable library engine → Writable engine.storage.rows →
      other.stateKey = engine.stateKey →
      exportConversationState library nonce groupId engine = .ok blob →
        ∃ snapshot, openSnapshot library other.stateKey blob = .ok snapshot ∧
          TakenFrom library engine groupId snapshot ∧
          { (importConversationState library blob other).2 with
            groups := other.groups } = overwrite snapshot other) ∧
      ∀ (plain : Bytes) (snapshot : Snapshot mls),
        decodeWith (readSnapshot library) plain = .ok snapshot ↔
          Describes library plain snapshot := by
  constructor
  · intro engine other nonce groupId blob hengine hwritable hkey hexport
    obtain ⟨snapshot, hopened, htaken⟩ := openSnapshot_export hlaws
      (bounded_of_reachable hlaws hengine) hwritable hexport
    rw [← hkey] at hopened
    exact ⟨snapshot, hopened, htaken, import_overwrites hopened⟩
  · intro plain snapshot
    exact readSnapshot_eq_ok

theorem serializeShelfSigner_eq_some {signer bytes : Bytes}
    (hserialized : serializeShelfSigner signer = some bytes) :
    signer = bytes ∧ Fits bytes := by
  obtain ⟨hlength, hsame⟩ := Option.ite_none_right_eq_some.mp hserialized
  cases hsame
  exact ⟨rfl, hlength⟩

theorem shelfLibrary_laws : Laws shelfLibrary where
  decrypt_encrypt := Aead.transparent_correct.decrypt_encrypt
  tag_length := Aead.transparent_correct.tag_length
  deserialize_serialize := by
    intro signer bytes hserialized
    exact congrArg some (serializeShelfSigner_eq_some hserialized).1.symm
  fits_signer := fun hserialized => (serializeShelfSigner_eq_some hserialized).2
  fits_groupId := by
    intro group
    change (1 : ℕ) < 2 ^ 32
    norm_num

theorem reachable_newEngine (entropy : Bytes) :
    Reachable shelfLibrary (newEngine entropy) := by
  have hnew : initializeCryptoStore shelf entropy sampleMember (FixedBytes.fill 32 7) =
      .ok (newEngine entropy) := rfl
  exact .initialized hnew

/-- A restart: another engine takes over the two conversations of the first. -/
theorem restart_round_trip :
    (exportConversationState shelfLibrary (FixedBytes.fill 24 0) [1] twoConversations =
        .ok (exported [1] twoConversations)) ∧
      ∃ snapshot, openSnapshot shelfLibrary (newEngine [8]).stateKey
          (exported [1] twoConversations) = .ok snapshot ∧
        TakenFrom shelfLibrary twoConversations [1] snapshot ∧
        { (importConversationState shelfLibrary (exported [1] twoConversations)
            (newEngine [8])).2 with groups := (newEngine [8]).groups } =
          overwrite snapshot (newEngine [8]) := by
  have hreachable : Reachable shelfLibrary twoConversations :=
    ((reachable_newEngine [9]).performed _).performed _
  have hwritable : Writable twoConversations.storage.rows := by
    constructor <;> decide +kernel
  have hexported : exportConversationState shelfLibrary (FixedBytes.fill 24 0) [1]
      twoConversations = .ok (exported [1] twoConversations) := by decide +kernel
  exact ⟨hexported, (snapshot_round_trip shelfLibrary shelfLibrary_laws).1
    twoConversations (newEngine [8]) (FixedBytes.fill 24 0) [1]
    (exported [1] twoConversations) hreachable hwritable rfl hexported⟩

end ResilientMessenger.Restarts
