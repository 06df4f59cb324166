import ResilientMessenger.Store.Acknowledgements

/-!
# Creation and key rotation side by side

`create_message` encrypts under the key read lock, releases it, and only then
takes the database lock for its insert transaction.  `rotate_master_key` holds
both locks throughout.  The system below interleaves any number of creations,
each in its two steps, with rotations.  A rotation keeps every stored body
readable, and so does an insertion, exactly when no rotation to another key
came between the two steps of its call.
-/

namespace ResilientMessenger.KeyRotation

open ResilientMessenger.ByteCodec
open ResilientMessenger.LocalDatabase
open ResilientMessenger.StoreOperations
open ResilientMessenger.Transaction
open ResilientMessenger.MessageLifecycle
open ResilientMessenger.Acknowledgements
open ResilientMessenger.Runs

/-! ## Message bodies -/

section Bodies

variable {aead : Aead} {key : Key} {nonce : Nonce} {plaintext body : Bytes}

theorem encrypt_eq_ok (hencrypt : encrypt aead key nonce plaintext = .ok body) :
    ∃ ciphertext, aead.encrypt key nonce messageAad plaintext = some ciphertext ∧
      body = nonce.toList ++ ciphertext := by
  unfold encrypt at hencrypt
  cases hsealed : aead.encrypt key nonce messageAad plaintext with
  | none => simp [hsealed] at hencrypt
  | some ciphertext =>
      simp only [hsealed, Except.ok.injEq] at hencrypt
      exact ⟨ciphertext, rfl, hencrypt.symm⟩

/-- A stored body is long enough to be split again, so decryption is that of
the cipher. -/
theorem decrypt_of_encrypt (hcorrect : aead.Correct) {other : Key}
    (hencrypt : encrypt aead key nonce plaintext = .ok body) :
    ∃ ciphertext, aead.encrypt key nonce messageAad plaintext = some ciphertext ∧
      decrypt aead other body =
        match aead.decrypt other nonce messageAad ciphertext with
        | some recovered => .ok recovered
        | none => .error .authentication := by
  obtain ⟨ciphertext, hsealed, rfl⟩ := encrypt_eq_ok hencrypt
  obtain ⟨hlength, hnonce, hrest⟩ :=
    Aead.split_sealed nonce (hcorrect.tag_length hsealed)
  refine ⟨ciphertext, hsealed, ?_⟩
  cases hopened : aead.decrypt other nonce messageAad ciphertext <;>
    simp only [decrypt, if_neg hlength, hnonce, hrest, hopened]

theorem decrypt_same_key (hcorrect : aead.Correct)
    (hencrypt : encrypt aead key nonce plaintext = .ok body) :
    decrypt aead key body = .ok plaintext := by
  obtain ⟨ciphertext, hsealed, hdecrypt⟩ := decrypt_of_encrypt hcorrect hencrypt
  rw [hdecrypt, hcorrect.decrypt_encrypt hsealed]

theorem decrypt_other_key (hcorrect : aead.Correct) {other : Key}
    (hother : other ≠ key)
    (hencrypt : encrypt aead key nonce plaintext = .ok body) :
    decrypt aead other body = .error .authentication := by
  obtain ⟨ciphertext, hsealed, hdecrypt⟩ := decrypt_of_encrypt hcorrect hencrypt
  rw [hdecrypt, hcorrect.wrong_key hsealed hother]

end Bodies

/-! ## What a rotation does to the bodies -/

/-- The loop re-encrypts the row it is at and leaves every row it has passed,
and every row outside its list, alone. -/
theorem reencrypt_other {aead : Aead} {active replacement : Key}
    {nonces : Id16 → Nonce} {rows : List MessageRow} {db result : Database}
    (hloop : reencrypt aead active replacement nonces rows db = .ok result)
    {id : Id16} (hid : id ∉ rows.map MessageRow.clientMessageId) :
    result.messages.lookup id = db.messages.lookup id := by
  apply reencrypt_keeps
    (P := fun current => current.messages.lookup id = db.messages.lookup id) hloop rfl
  intro row hrow body current hcurrent
  have hother : id ≠ row.clientMessageId := fun heq =>
    hid (heq ▸ List.mem_map_of_mem hrow)
  rw [setBody_messages, if_neg hother, hcurrent]

theorem reencrypt_row {aead : Aead} {active replacement : Key}
    {nonces : Id16 → Nonce} {rows : List MessageRow} {db result : Database}
    (hloop : reencrypt aead active replacement nonces rows db = .ok result)
    (hnodup : (rows.map MessageRow.clientMessageId).Nodup)
    {row : MessageRow} (hrow : row ∈ rows)
    (hstored : db.messages.lookup row.clientMessageId = some row) :
    ∃ plaintext body,
      decrypt aead active row.bodyCiphertext = .ok plaintext ∧
      encrypt aead replacement (nonces row.clientMessageId) plaintext = .ok body ∧
      result.messages.lookup row.clientMessageId =
        some { row with bodyCiphertext := body } := by
  induction rows generalizing db with
  | nil => simp at hrow
  | cons head rows ih =>
      simp only [reencrypt, bind_eq_ok] at hloop
      obtain ⟨plaintext, hdecrypt, body, hencrypt, hrest⟩ := hloop
      rw [List.map_cons, List.nodup_cons] at hnodup
      by_cases hhead : row = head
      · subst hhead
        refine ⟨plaintext, body, hdecrypt, hencrypt, ?_⟩
        rw [reencrypt_other hrest hnodup.1, setBody_messages, if_pos rfl, hstored]
        rfl
      · have htail : row ∈ rows := (List.mem_cons.mp hrow).resolve_left hhead
        have hne : row.clientMessageId ≠ head.clientMessageId := fun heq =>
          hnodup.1 (heq ▸ List.mem_map_of_mem htail)
        apply ih hrest hnodup.2 htail
        rw [setBody_messages, if_neg hne]
        exact hstored

/-- A rotation that returns an error changes nothing; one that returns `Ok`
installs the new key and leaves, for every row, the same message encrypted
under it. -/
theorem rotateMasterKey_cases (aead : Aead) (nonces : Id16 → Nonce)
    (newKey : Bytes) (newVersion : UInt32) (core : MessengerCore) :
    (∃ failure, rotateMasterKey aead nonces newKey newVersion core =
        (.error failure, core)) ∨
      (rotateMasterKey aead nonces newKey newVersion core).1 = .ok () ∧
      ∀ id, (core.db.messages.lookup id = none ∧
          (rotateMasterKey aead nonces newKey newVersion core).2.db.messages.lookup
            id = none) ∨
        ∃ row plaintext body,
          core.db.messages.lookup id = some row ∧
          decrypt aead core.masterKey row.bodyCiphertext = .ok plaintext ∧
          encrypt aead
            (rotateMasterKey aead nonces newKey newVersion core).2.masterKey
            (nonces id) plaintext = .ok body ∧
          (rotateMasterKey aead nonces newKey newVersion core).2.db.messages.lookup
            id = some { row with bodyCiphertext := body } := by
  rcases rotateMasterKey_outcome aead nonces newKey newVersion core with hrefused |
    ⟨replacement, reencrypted, hloop, hrotated⟩
  · exact .inl hrefused
  · rw [hrotated]
    refine .inr ⟨rfl, fun id => ?_⟩
    cases hlookup : core.db.messages.lookup id with
    | none =>
        have hid := Table.lookup_eq_none_iff.mp hlookup
        exact .inl ⟨rfl, (reencrypt_other hloop hid).trans hlookup⟩
    | some row =>
        have hkey := Table.key_of_lookup hlookup
        subst hkey
        obtain ⟨plaintext, body, hdecrypt, hencrypt, hresult⟩ :=
          reencrypt_row hloop core.db.messages.nodup
            (Table.mem_of_lookup hlookup) hlookup
        exact .inr ⟨row, plaintext, body, rfl, hdecrypt, hencrypt, hresult⟩

/-! ## The interleaved system -/

/-- A `create_message` call that has encrypted its body and released the key
lock.  `key` records the key it encrypted under; the code does not keep it. -/
structure Creation where
  id : Id16
  conversationId : Id16
  plaintext : String
  key : Key
  encrypted : Bytes

/-- The store with the calls that are between their two steps.  `created`
records the text every stored message was created with. -/
structure System where
  core : MessengerCore
  pending : ℕ → Option Creation
  created : Id16 → Option String

def System.opened (key : Key) : System where
  core := Acknowledgements.opened key
  pending _ := none
  created _ := none

inductive Label where
  | encrypt (call : ℕ) (id : Id16) (nonce : Nonce) (conversationId : Id16)
      (plaintext : String)
  | insert (call : ℕ) (now : ℤ)
  | rotate (nonces : Id16 → Nonce) (newKey : Bytes) (newVersion : UInt32)

def System.encrypt (aead : Aead) (system : System) (call : ℕ) (id : Id16)
    (nonce : Nonce) (conversationId : Id16) (plaintext : String) : System :=
  match system.pending call,
      StoreOperations.encrypt aead system.core.masterKey nonce
        (utf8 plaintext) with
  | none, .ok encrypted =>
      { system with
        pending := Function.update system.pending call <| some
          { id
            conversationId
            plaintext
            key := system.core.masterKey
            encrypted } }
  | _, _ => system

def System.insert (system : System) (call : ℕ) (now : ℤ) : System :=
  match system.pending call with
  | none => system
  | some creation =>
      let (result, core) := system.core.withDatabase <|
        insertCreated creation.id creation.conversationId creation.encrypted now
      { core
        pending := Function.update system.pending call none
        created :=
          match result with
          | .ok id =>
              Function.update system.created id (some creation.plaintext)
          | .error _ => system.created }

def System.step (aead : Aead) (system : System) : Label → System
  | .encrypt call id nonce conversationId plaintext =>
      system.encrypt aead call id nonce conversationId plaintext
  | .insert call now => system.insert call now
  | .rotate nonces newKey newVersion =>
      { system with
        core := (rotateMasterKey aead nonces newKey newVersion system.core).2 }

/-- Without a step in between, the two steps are the call. -/
theorem createMessage_uninterrupted (aead : Aead) (system : System) (call : ℕ)
    (id : Id16) (nonce : Nonce) (now : ℤ) (conversationId : Id16)
    (plaintext : String) (hidle : system.pending call = none) :
    (run (System.step aead) system
      [.encrypt call id nonce conversationId plaintext, .insert call now]).core =
      (createMessage aead id nonce now conversationId plaintext system.core).2 := by
  cases hencrypt : StoreOperations.encrypt aead system.core.masterKey nonce
      (utf8 plaintext) with
  | error failure =>
      simp [System.step, System.encrypt, System.insert, createMessage, hidle,
        hencrypt]
  | ok encrypted =>
      simp [System.step, System.encrypt, System.insert, createMessage, hidle,
        hencrypt]

/-! ## Every stored message can be read -/

/-- Every row decrypts under the active key to the text it was created with. -/
def Readable (aead : Aead) (system : System) : Prop :=
  ∀ row ∈ system.core.db.messages.rows, ∃ plaintext,
    system.created row.clientMessageId = some plaintext ∧
      decrypt aead system.core.masterKey row.bodyCiphertext =
        .ok (utf8 plaintext)

theorem readable_iff {aead : Aead} {system : System} :
    Readable aead system ↔
      ∀ id row, system.core.db.messages.lookup id = some row → ∃ plaintext,
        system.created id = some plaintext ∧
          decrypt aead system.core.masterKey row.bodyCiphertext =
            .ok (utf8 plaintext) := by
  constructor
  · intro hreadable id row hlookup
    have hkey := Table.key_of_lookup hlookup
    subst hkey
    exact hreadable row (Table.mem_of_lookup hlookup)
  · intro hall row hrow
    exact hall _ row (Table.mem_rows_iff.mp hrow)

/-- What a pending call carries is its text encrypted under the recorded key. -/
def Sealed (aead : Aead) (system : System) : Prop :=
  ∀ call creation, system.pending call = some creation → ∃ nonce,
    StoreOperations.encrypt aead creation.key nonce (utf8 creation.plaintext) =
      .ok creation.encrypted

/-- A creation is inserted under the key it was encrypted with, unless its id
is taken and the insertion fails anyway. -/
def KeyStillActive (system : System) : Label → Prop
  | .insert call _ => ∀ creation, system.pending call = some creation →
      stored system.core.db creation.id = (none, none) →
        creation.key = system.core.masterKey
  | _ => True

variable {aead : Aead} {system : System}

theorem sealed_encrypt (hsealed : Sealed aead system) (call : ℕ) (id : Id16)
    (nonce : Nonce) (conversationId : Id16) (plaintext : String) :
    Sealed aead (system.encrypt aead call id nonce conversationId plaintext) := by
  unfold System.encrypt
  split
  case h_1 encrypted hidle hencrypt =>
    intro other creation hcreation
    by_cases hother : other = call
    · subst hother
      simp only [Function.update_self, Option.some.injEq] at hcreation
      subst hcreation
      exact ⟨nonce, hencrypt⟩
    · simp only [Function.update_of_ne hother] at hcreation
      exact hsealed other creation hcreation
  case h_2 => exact hsealed

theorem readable_encrypt (call : ℕ) (id : Id16) (nonce : Nonce)
    (conversationId : Id16) (plaintext : String) :
    Readable aead (system.encrypt aead call id nonce conversationId plaintext) ↔
      Readable aead system := by
  unfold System.encrypt
  split <;> rfl

theorem sealed_insert (hsealed : Sealed aead system) (call : ℕ) (now : ℤ) :
    Sealed aead (system.insert call now) := by
  unfold System.insert
  cases hpending : system.pending call with
  | none => exact hsealed
  | some creation =>
      intro other creation hcreation
      by_cases hother : other = call
      · subst hother
        simp at hcreation
      · simp only [Function.update_of_ne hother] at hcreation
        exact hsealed other creation hcreation

/-- A rotation carries every body over to the new key. -/
theorem readable_rotate (hcorrect : aead.Correct)
    (hreadable : Readable aead system) (nonces : Id16 → Nonce) (newKey : Bytes)
    (newVersion : UInt32) :
    Readable aead
      { system with
        core := (rotateMasterKey aead nonces newKey newVersion system.core).2 } := by
  rcases rotateMasterKey_cases aead nonces newKey newVersion system.core with
    ⟨failure, hfailure⟩ | ⟨-, hrows⟩
  · rw [hfailure]
    exact hreadable
  · rw [readable_iff] at hreadable ⊢
    intro id rotated hrotated
    rcases hrows id with ⟨-, hnone⟩ |
      ⟨row, plaintext, body, hlookup, hdecrypt, hencrypt, hresult⟩
    · rw [hnone] at hrotated
      cases hrotated
    · obtain ⟨text, hcreated, htext⟩ := hreadable id row hlookup
      rw [hdecrypt] at htext
      cases htext
      rw [hresult] at hrotated
      cases hrotated
      exact ⟨text, hcreated, decrypt_same_key hcorrect hencrypt⟩

/-- The insert transaction of a pending call: refused without effect when the
id is taken, and otherwise one new row. -/
theorem insert_cases {call : ℕ} {creation : Creation}
    (hpending : system.pending call = some creation) (now : ℤ) :
    (stored system.core.db creation.id ≠ (none, none) ∧
        (system.insert call now).core = system.core ∧
        (system.insert call now).created = system.created) ∨
      (stored system.core.db creation.id = (none, none) ∧
        (system.insert call now).core.masterKey = system.core.masterKey ∧
        (∀ id, (system.insert call now).core.db.messages.lookup id =
          if id = creation.id then
            some (freshMessageRow creation.id creation.conversationId
              creation.encrypted now)
          else system.core.db.messages.lookup id) ∧
        ∀ id, (system.insert call now).created id =
          if id = creation.id then some creation.plaintext
          else system.created id) := by
  unfold System.insert
  simp only [hpending, MessengerCore.withDatabase]
  rcases insertCreated_cases creation.id creation.conversationId
    creation.encrypted now system.core.db with
    ⟨failure, hfailure⟩ | ⟨hok, hfree, hstored⟩
  · have htaken : stored system.core.db creation.id ≠ (none, none) := by
      intro hfree
      have hok := insertCreated_of_free creation.conversationId
        creation.encrypted now hfree
      rw [hfailure] at hok
      cases hok
    left
    simp [hfailure, htaken]
  · right
    refine ⟨hfree, trivial, fun id => ?_, fun id => ?_⟩
    · have hrow := congrArg Prod.fst (hstored id)
      rw [apply_ite Prod.fst] at hrow
      exact hrow
    · simp only [hok, Function.update_apply]

/-- An insertion adds one body, readable exactly under the key it was encrypted
with. -/
theorem readable_insert_iff (hcorrect : aead.Correct)
    (hreadable : Readable aead system) (hsealed : Sealed aead system) (call : ℕ)
    (now : ℤ) :
    Readable aead (system.insert call now) ↔
      KeyStillActive system (.insert call now) := by
  cases hpending : system.pending call with
  | none =>
      have hidle : system.insert call now = system := by
        simp [System.insert, hpending]
      simpa [hidle, KeyStillActive, hpending] using hreadable
  | some creation =>
      obtain ⟨nonce, hencrypt⟩ := hsealed call creation hpending
      have hguard : KeyStillActive system (.insert call now) ↔
          (stored system.core.db creation.id = (none, none) →
            creation.key = system.core.masterKey) := by
        simp [KeyStillActive, hpending]
      rw [readable_iff] at hreadable
      rw [hguard, readable_iff]
      rcases insert_cases hpending now with ⟨htaken, hcore, hcreated⟩ |
        ⟨hfree, hkey, hrows, hcreated⟩
      · rw [hcore, hcreated]
        exact iff_of_true hreadable fun hfree => absurd hfree htaken
      · rw [hkey]
        constructor
        · intro hafter _
          obtain ⟨plaintext, -, hdecrypt⟩ := hafter creation.id _
            ((hrows creation.id).trans (if_pos rfl))
          by_contra hother
          have hrefused := decrypt_other_key hcorrect (Ne.symm hother) hencrypt
          rw [freshMessageRow, hrefused] at hdecrypt
          cases hdecrypt
        · intro hactive id row hlookup
          rw [hrows] at hlookup
          rw [hcreated]
          split at hlookup
          case isTrue hid =>
            cases hlookup
            rw [if_pos hid, ← hactive hfree]
            exact ⟨creation.plaintext, rfl, decrypt_same_key hcorrect hencrypt⟩
          case isFalse hid =>
            rw [if_neg hid]
            exact hreadable id row hlookup

/-! ## Runs -/

/-- The invariant behind `Readable`. -/
def Consistent (aead : Aead) (system : System) : Prop :=
  Readable aead system ∧ Sealed aead system

theorem consistent_opened (aead : Aead) (key : Key) :
    Consistent aead (System.opened key) := by
  constructor
  · intro row hrow
    cases hrow
  · intro call creation hpending
    cases hpending

/-- One step keeps every stored message readable exactly when it is not a late
insertion. -/
theorem readable_step_iff (hcorrect : aead.Correct)
    (hconsistent : Consistent aead system) (label : Label) :
    Readable aead (system.step aead label) ↔ KeyStillActive system label := by
  obtain ⟨hreadable, hsealed⟩ := hconsistent
  cases label with
  | encrypt call id nonce conversationId plaintext =>
      exact iff_of_true ((readable_encrypt call id nonce conversationId
        plaintext).mpr hreadable) trivial
  | insert call now => exact readable_insert_iff hcorrect hreadable hsealed call now
  | rotate nonces newKey newVersion =>
      exact iff_of_true (readable_rotate hcorrect hreadable nonces newKey
        newVersion) trivial

theorem sealed_step (hsealed : Sealed aead system) (label : Label) :
    Sealed aead (system.step aead label) := by
  cases label with
  | encrypt call id nonce conversationId plaintext =>
      exact sealed_encrypt hsealed call id nonce conversationId plaintext
  | insert call now => exact sealed_insert hsealed call now
  | rotate nonces newKey newVersion => exact hsealed

/-- In every interleaving of creations and rotations, all stored messages stay
readable under the active key exactly when every creation is inserted under the
key it was encrypted with. -/
theorem readable_iff_keys_still_active (aead : Aead) (hcorrect : aead.Correct)
    (key : Key) (labels : List Label) :
    Along (System.step aead) (Readable aead) (System.opened key) labels ↔
      Guarded (System.step aead) KeyStillActive (System.opened key) labels := by
  refine along_iff_guarded
    (fun system (hconsistent : Consistent aead system) => hconsistent.1)
    ?_ ?_ (consistent_opened aead key) labels
  · intro system label hconsistent hguard
    exact ⟨(readable_step_iff hcorrect hconsistent label).mpr hguard,
      sealed_step hconsistent.2 label⟩
  · intro system label hconsistent hlate hreadable
    exact hlate ((readable_step_iff hcorrect hconsistent label).mp hreadable)

/-- A rotation before the first step and one after the second. -/
theorem readable_around_rotations :
    Along (System.step Aead.transparent) (Readable Aead.transparent)
      (System.opened sampleKey)
      [.rotate (fun _ => FixedBytes.fill 24 5) (List.replicate 32 7) 2,
        .encrypt 0 sampleId (FixedBytes.fill 24 3) (FixedBytes.fill 16 4) "OK",
        .insert 0 0,
        .rotate (fun _ => FixedBytes.fill 24 6) (List.replicate 32 8) 3] :=
  (readable_iff_keys_still_active Aead.transparent Aead.transparent_correct
    sampleKey _).mpr
    ⟨trivial, trivial, fun creation hpending _ => by
      cases hpending
      decide +kernel, trivial, trivial⟩

/-- A rotation between the two steps leaves a row that the active key does not
open. -/
theorem rotation_between_encrypt_and_insert :
    ¬Readable Aead.transparent
      (run (System.step Aead.transparent) (System.opened sampleKey)
        [.encrypt 0 sampleId (FixedBytes.fill 24 3) (FixedBytes.fill 16 4) "OK",
          .rotate (fun _ => FixedBytes.fill 24 5) (List.replicate 32 7) 2,
          .insert 0 0]) := by
  intro hreadable
  have hlocked : ∃ row ∈ (run (System.step Aead.transparent)
      (System.opened sampleKey)
      [.encrypt 0 sampleId (FixedBytes.fill 24 3) (FixedBytes.fill 16 4) "OK",
        .rotate (fun _ => FixedBytes.fill 24 5) (List.replicate 32 7) 2,
        .insert 0 0]).core.db.messages.rows,
      decrypt Aead.transparent (FixedBytes.fill 32 7) row.bodyCiphertext =
        .error .authentication := by
    decide +kernel
  obtain ⟨row, hrow, hrefused⟩ := hlocked
  obtain ⟨plaintext, -, hdecrypt⟩ := hreadable row hrow
  exact absurd (hrefused.symm.trans hdecrypt) (by simp)

end ResilientMessenger.KeyRotation
