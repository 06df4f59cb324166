import Mathlib.Data.List.Sort
import ResilientMessenger.Store.KeyRotation

/-!
# Created messages are kept

Once `create_message` has returned an identifier, the message can be listed
with its text whatever calls follow, short of a wipe.  Three facts carry this
through a run: every call but a rotation leaves the bodies alone, a rotation
carries them over to the new key, and every status that is ever written is one
`list_messages` can read.  The outbox row goes only with an acceptance or a
cancellation that succeeds.
-/

namespace ResilientMessenger.Durability

open ResilientMessenger.ByteCodec
open ResilientMessenger.LocalDatabase
open ResilientMessenger.StoreOperations
open ResilientMessenger.MessageLifecycle
open ResilientMessenger.Transaction
open ResilientMessenger.Runs
open ResilientMessenger.Acknowledgements (opened sampleKey sampleId)
open ResilientMessenger.KeyRotation (rotateMasterKey_cases decrypt_same_key)

/-! ## Listing and reopening -/

structure LocalMessage where
  clientMessageId : Id16
  conversationId : Id16
  plaintext : String
  status : MessageStatus
  createdAtMs : ℤ
  deriving DecidableEq

/-- `MessageStatus::try_from`. -/
def tryFrom : ℤ → Except CoreError MessageStatus
  | 0 => .ok .draft
  | 1 => .ok .queued
  | 2 => .ok .encrypting
  | 3 => .ok .readyToUpload
  | 4 => .ok .uploading
  | 5 => .ok .serverAccepted
  | 6 => .ok .delivered
  | 7 => .ok .read
  | 8 => .ok .retryScheduled
  | 9 => .ok .failedPermanent
  | 10 => .ok .cancelled
  | _ => .error .invalidTransition

/-- `String::from_utf8`. -/
def fromUtf8 (bytes : Bytes) : Except CoreError String :=
  match String.fromUTF8? ⟨bytes.toArray⟩ with
  | some text => .ok text
  | none => .error .authentication

def localMessage (aead : Aead) (key : Key) (row : MessageRow) :
    Except CoreError LocalMessage := do
  let bytes ← decrypt aead key row.bodyCiphertext
  let plaintext ← fromUtf8 bytes
  let status ← tryFrom row.status
  pure
    { clientMessageId := row.clientMessageId
      conversationId := row.conversationId
      plaintext
      status
      createdAtMs := row.createdAtMs }

/-- `ORDER BY created_at_ms, rowid`: the rows are in the order of their rowids
and the sort is stable. -/
def conversationRows (conversationId : Id16) (db : Database) : List MessageRow :=
  (db.messages.rows.filter fun row =>
    row.conversationId = conversationId).insertionSort fun left right =>
      left.createdAtMs ≤ right.createdAtMs

def listMessages (aead : Aead) (conversationId : Id16) (core : MessengerCore) :
    Except CoreError (List LocalMessage) :=
  (conversationRows conversationId core.db).mapM (localMessage aead core.masterKey)

/-- `open` on an existing file.  Every statement of `migrate` is an
`IF NOT EXISTS` or an `OR IGNORE`, so it finds the database as it was left. -/
def reopenStore (masterKey : Bytes) (db : Database) :
    Except CoreError MessengerCore :=
  match FixedBytes.ofBytes? 32 masterKey with
  | none => .error .invalidMasterKey
  | some key => .ok ⟨db, key⟩

/-- A call on the open store, or closing it and opening it again with the key
that is active then. -/
inductive Label where
  | call (operation : Operation)
  | reopen

def step (aead : Aead) (core : MessengerCore) : Label → MessengerCore
  | .call operation => StoreOperations.step aead core operation
  | .reopen =>
      match reopenStore core.masterKey.toList core.db with
      | .ok reopened => reopened
      | .error _ => core

/-- Listing the conversation succeeds and shows the message once, with its
text. -/
def Listed (aead : Aead) (conversationId id : Id16) (plaintext : String)
    (core : MessengerCore) : Prop :=
  ∃ entries, listMessages aead conversationId core = .ok entries ∧
    (entries.map LocalMessage.clientMessageId).count id = 1 ∧
    ∀ entry ∈ entries, entry.clientMessageId = id → entry.plaintext = plaintext

/-- The step is no wipe and no successful acceptance or cancellation of the
message. -/
def Unsettled (aead : Aead) (id : Id16) (core : MessengerCore) : Label → Prop
  | .call operation =>
      operation ≠ .wipeLocalAccount ∧
        ((operation = .markUploadAccepted id ∨
          operation = .cancelPendingMessage id) →
            (perform aead core operation).1 ≠ .ok ())
  | .reopen => True

/-! ## Reading rows back -/

theorem tryFrom_code (status : MessageStatus) : tryFrom status.code = .ok status := by
  cases status <;> rfl

theorem fromUtf8_utf8 (text : String) : fromUtf8 (utf8 text) = .ok text := by
  have hdecoded : ofUtf8? (utf8 text) = some text := ofUtf8?_eq_some.mpr rfl
  unfold ofUtf8? at hdecoded
  rw [fromUtf8, hdecoded]

theorem reopenStore_active (core : MessengerCore) :
    reopenStore core.masterKey.toList core.db = .ok core := by
  simp only [reopenStore, FixedBytes.ofBytes?_toList]

/-- When every row can be read, the list has one entry for each row. -/
theorem mapM_eq_ok {α β ε : Type} {f : α → Except ε β} {rows : List α}
    (hall : ∀ row ∈ rows, ∃ entry, f row = .ok entry) :
    ∃ entries, rows.mapM f = .ok entries ∧
      List.Forall₂ (fun row entry => f row = .ok entry) rows entries := by
  induction rows with
  | nil => exact ⟨[], rfl, .nil⟩
  | cons row rows ih =>
      obtain ⟨entry, hentry⟩ := hall row List.mem_cons_self
      obtain ⟨entries, hentries, hpairs⟩ :=
        ih fun other hother => hall other (List.mem_cons_of_mem row hother)
      refine ⟨entry :: entries, ?_, .cons hentry hpairs⟩
      rw [List.mapM_cons, hentry, hentries]
      rfl

theorem localMessage_eq_ok {aead : Aead} {key : Key} {row : MessageRow}
    {text : String} {status : MessageStatus}
    (hdecrypt : decrypt aead key row.bodyCiphertext = .ok (utf8 text))
    (hstatus : row.status = status.code) :
    localMessage aead key row =
      .ok ⟨row.clientMessageId, row.conversationId, text, status,
        row.createdAtMs⟩ := by
  simp only [localMessage, hdecrypt, hstatus, tryFrom_code, bind, Except.bind,
    fromUtf8_utf8]
  rfl

theorem clientMessageId_of_localMessage {aead : Aead} {key : Key}
    {row : MessageRow} {entry : LocalMessage}
    (hentry : localMessage aead key row = .ok entry) :
    entry.clientMessageId = row.clientMessageId := by
  simp only [localMessage, bind_eq_ok, pure_eq_ok] at hentry
  obtain ⟨bytes, -, text, -, status, -, rfl⟩ := hentry
  rfl

theorem clientMessageIds_of_pairs {aead : Aead} {key : Key}
    {rows : List MessageRow} {entries : List LocalMessage}
    (hpairs : List.Forall₂ (fun row entry => localMessage aead key row = .ok entry)
      rows entries) :
    entries.map LocalMessage.clientMessageId =
      rows.map MessageRow.clientMessageId := by
  induction hpairs with
  | nil => rfl
  | cons hentry _ ih =>
      rw [List.map_cons, List.map_cons, ih, clientMessageId_of_localMessage hentry]

/-- Every entry of a list of pairs has its row. -/
theorem row_of_entry {α β : Type} {R : α → β → Prop} {rows : List α}
    {entries : List β} (hpairs : List.Forall₂ R rows entries) {entry : β}
    (hentry : entry ∈ entries) : ∃ row ∈ rows, R row entry := by
  induction hpairs with
  | nil => cases hentry
  | cons hhead _ ih =>
      rcases List.mem_cons.mp hentry with rfl | htail
      · exact ⟨_, List.mem_cons_self, hhead⟩
      · obtain ⟨row, hrow, hpair⟩ := ih htail
        exact ⟨row, List.mem_cons_of_mem _ hrow, hpair⟩

theorem mem_conversationRows {conversationId : Id16} {db : Database}
    {row : MessageRow} :
    row ∈ conversationRows conversationId db ↔
      row ∈ db.messages.rows ∧ row.conversationId = conversationId := by
  simp [conversationRows, List.mem_insertionSort]

theorem conversationRows_nodup (conversationId : Id16) (db : Database) :
    ((conversationRows conversationId db).map
      MessageRow.clientMessageId).Nodup := by
  have hperm := List.perm_insertionSort
    (fun left right : MessageRow => left.createdAtMs ≤ right.createdAtMs)
    (db.messages.rows.filter fun row => row.conversationId = conversationId)
  apply (hperm.map MessageRow.clientMessageId).nodup_iff.mpr
  exact db.messages.nodup.sublist (List.filter_sublist.map _)

/-! ## What a call does to a message row -/

/-- The row of the message is as before but for its status. -/
def Restatused (old new : Option MessageRow) : Prop :=
  new = old ∨ ∃ status : MessageStatus,
    new = old.map fun row => { row with status := status.code }

/-- Everything a call can do to the row of one message. -/
inductive RowMoves (aead : Aead) (id : Id16) (core next : MessengerCore) :
    Operation → Prop
  | restatused {operation} (hkey : next.masterKey = core.masterKey)
      (hrow : Restatused (core.db.messages.lookup id) (next.db.messages.lookup id)) :
      RowMoves aead id core next operation
  | created {nonce now conversationId plaintext encrypted}
      (hkey : next.masterKey = core.masterKey)
      (hfree : core.db.messages.lookup id = none)
      (hencrypt : encrypt aead core.masterKey nonce (utf8 plaintext) =
        .ok encrypted)
      (hrow : next.db.messages.lookup id =
        some (freshMessageRow id conversationId encrypted now)) :
      RowMoves aead id core next
        (.createMessage id nonce now conversationId plaintext)
  | rotated {nonces newKey newVersion nonce row plaintext body}
      (hlookup : core.db.messages.lookup id = some row)
      (hdecrypt : decrypt aead core.masterKey row.bodyCiphertext = .ok plaintext)
      (hencrypt : encrypt aead next.masterKey nonce plaintext = .ok body)
      (hrow : next.db.messages.lookup id =
        some { row with bodyCiphertext := body }) :
      RowMoves aead id core next (.rotateMasterKey nonces newKey newVersion)
  | missing {operation} (hbefore : core.db.messages.lookup id = none)
      (hafter : next.db.messages.lookup id = none) :
      RowMoves aead id core next operation
  | wiped (hrow : next.db.messages.lookup id = none) :
      RowMoves aead id core next .wipeLocalAccount

theorem restatused_of_stored {db next : Database} {id : Id16}
    (hstored : stored next id = stored db id) :
    Restatused (db.messages.lookup id) (next.messages.lookup id) :=
  .inl (congrArg Prod.fst hstored)

/-- A call that settles a message or changes nothing. -/
theorem restatused_of_settled {db next : Database} {target id : Id16}
    {cond : MessageRow → Prop} [DecidablePred cond] {status : MessageStatus}
    (hstored : stored next id =
      if id = target then
        match db.messages.lookup target with
        | none => stored db target
        | some row =>
            if cond row then (some { row with status := status.code }, none)
            else stored db target
      else stored db id) :
    Restatused (db.messages.lookup id) (next.messages.lookup id) := by
  rcases settled_cases hstored with hsame | ⟨-, row, hlookup, -, hsettled⟩
  · exact restatused_of_stored hsame
  · rw [hlookup]
    exact .inr ⟨status, congrArg Prod.fst hsettled⟩

theorem restatused_advance (target : Id16) (status : MessageStatus)
    (db : Database) (id : Id16) :
    Restatused (db.messages.lookup id)
      ((advanceMessageStatus target status db).2.messages.lookup id) := by
  have hstored := stored_advanceMessageStatus target status db id
  by_cases hid : id = target
  · subst hid
    rw [if_pos rfl] at hstored
    have hrow := congrArg Prod.fst hstored
    dsimp only [stored] at hrow
    rw [hrow]
    cases db.messages.lookup id with
    | none => exact .inl rfl
    | some row =>
        by_cases hbehind : row.status < status.code
        · rw [Option.map_some, if_pos hbehind]
          exact .inr ⟨status, rfl⟩
        · rw [Option.map_some, if_neg hbehind]
          exact .inl rfl
  · rw [if_neg hid] at hstored
    exact restatused_of_stored hstored

theorem restatused_retry (now : ℤ) (target : Id16) (db : Database) (id : Id16) :
    Restatused (db.messages.lookup id)
      ((retryMessage now target db).2.messages.lookup id) := by
  unfold retryMessage
  split
  · exact .inl rfl
  split
  · exact .inl rfl
  · dsimp only
    rw [setStatus_messages]
    by_cases hid : id = target
    · rw [if_pos hid, hid]
      exact .inr ⟨.retryScheduled, rfl⟩
    · rw [if_neg hid]
      exact .inl rfl

private theorem rowMoves_create (aead : Aead) (target : Id16) (nonce : Nonce)
    (now : ℤ) (conversationId : Id16) (plaintext : String) (core : MessengerCore)
    (id : Id16) :
    RowMoves aead id core
      (createMessage aead target nonce now conversationId plaintext core).2
      (.createMessage target nonce now conversationId plaintext) := by
  unfold createMessage
  cases hencrypt : encrypt aead core.masterKey nonce (utf8 plaintext) with
  | error failure => exact .restatused rfl (.inl rfl)
  | ok encrypted =>
      dsimp only [MessengerCore.withDatabase]
      rcases insertCreated_cases target conversationId encrypted now core.db with
        ⟨failure, hfailure⟩ | ⟨-, hfree, hstored⟩
      · rw [hfailure]
        exact .restatused rfl (.inl rfl)
      · by_cases hid : id = target
        · subst hid
          exact .created rfl (congrArg Prod.fst hfree) hencrypt
            (congrArg Prod.fst ((hstored id).trans (if_pos rfl)))
        · exact .restatused rfl
            (restatused_of_stored ((hstored id).trans (if_neg hid)))

private theorem rowMoves_rotate (aead : Aead) (nonces : Id16 → Nonce)
    (newKey : Bytes) (newVersion : UInt32) (core : MessengerCore) (id : Id16) :
    RowMoves aead id core (rotateMasterKey aead nonces newKey newVersion core).2
      (.rotateMasterKey nonces newKey newVersion) := by
  rcases rotateMasterKey_cases aead nonces newKey newVersion core with
    ⟨failure, hfailure⟩ | ⟨-, hrows⟩
  · rw [hfailure]
    exact .restatused rfl (.inl rfl)
  · rcases hrows id with ⟨hbefore, hafter⟩ |
      ⟨row, plaintext, body, hlookup, hdecrypt, hencrypt, hrow⟩
    · exact .missing hbefore hafter
    · exact .rotated hlookup hdecrypt hencrypt hrow

/-- A call that leaves the table of messages alone. -/
theorem RowMoves.of_call {α : Type} {aead : Aead} {id : Id16}
    {core : MessengerCore} {operation : Operation}
    (call : Database → Except CoreError α × Database)
    (hmessages : (call core.db).2.messages = core.db.messages) :
    RowMoves aead id core (core.withDatabase call).2 operation :=
  .restatused rfl (.inl (congrArg (Table.lookup · id) hmessages))

/-- One call makes one of the listed moves on the row of every message. -/
theorem step_rowMoves (aead : Aead) (core : MessengerCore) (operation : Operation)
    (id : Id16) :
    RowMoves aead id core (StoreOperations.step aead core operation) operation := by
  cases operation with
  | createMessage target nonce now conversationId plaintext =>
      exact rowMoves_create aead target nonce now conversationId plaintext core id
  | markUploadAccepted target =>
      exact .restatused rfl
        (restatused_of_settled (stored_markUploadAccepted target core.db id))
  | retryMessage now target =>
      exact .restatused rfl (restatused_retry now target core.db id)
  | cancelPendingMessage target =>
      exact .restatused rfl
        (restatused_of_settled (stored_cancelPendingMessage target core.db id))
  | applyDeliveryReceipt target =>
      exact .restatused rfl (restatused_advance target .delivered core.db id)
  | applyReadReceipt target =>
      exact .restatused rfl (restatused_advance target .read core.db id)
  | createGroup now groupId =>
      exact .of_call (createGroup now groupId)
        (insertOrIgnoreConversation_messages core.db ⟨groupId, now⟩)
  | addMember groupId deviceId accountId =>
      apply RowMoves.of_call (addMember groupId deviceId accountId)
      unfold addMember
      split <;> rfl
  | removeMember now groupId deviceId =>
      apply RowMoves.of_call (removeMember now groupId deviceId)
      unfold removeMember
      dsimp only
      split <;> rfl
  | ingestServerEvent now event =>
      exact .of_call (ingestServerEvent now event)
        (insertOrIgnoreInbox_tables core.db (event.row now)).1
  | ingestServerBatch events =>
      exact .of_call (ingestServerBatch events)
        (ingestServerBatch_tables events core.db).1
  | setSyncCursor scope cursor =>
      apply RowMoves.of_call (setSyncCursor scope cursor)
      unfold setSyncCursor
      dsimp only
      split_ifs <;> rfl
  | blockAccount now accountId => exact .of_call (blockAccount now accountId) rfl
  | unblockAccount accountId => exact .of_call (unblockAccount accountId) rfl
  | setNetworkMode mode => exact .of_call (setNetworkMode mode) rfl
  | cacheRelayDirectory directory =>
      apply RowMoves.of_call (cacheRelayDirectory directory)
      unfold cacheRelayDirectory
      dsimp only
      split_ifs <;> rfl
  | rotateMasterKey nonces newKey newVersion =>
      exact rowMoves_rotate aead nonces newKey newVersion core id
  | wipeLocalAccount => exact .wiped rfl

/-! ## Every message stays legible -/

/-- The row of the message, if there is one, decrypts under the active key to a
text and has a status that can be read. -/
def Legible (aead : Aead) (core : MessengerCore) (id : Id16) : Prop :=
  ∀ row, core.db.messages.lookup id = some row →
    ∃ text status, decrypt aead core.masterKey row.bodyCiphertext =
        .ok (utf8 text) ∧
      row.status = MessageStatus.code status

/-- The message is stored for the conversation and decrypts to the text. -/
def Kept (aead : Aead) (conversationId id : Id16) (text : String)
    (core : MessengerCore) : Prop :=
  ∃ row, core.db.messages.lookup id = some row ∧
    row.conversationId = conversationId ∧
    decrypt aead core.masterKey row.bodyCiphertext = .ok (utf8 text)

section Moves

variable {aead : Aead} {id : Id16} {core next : MessengerCore}
  {operation : Operation}

theorem legible_of_rowMoves (hcorrect : aead.Correct)
    (hmoves : RowMoves aead id core next operation)
    (hlegible : Legible aead core id) : Legible aead next id := by
  intro row hrow
  cases hmoves with
  | restatused hkey hmoved =>
      rw [hkey]
      rcases hmoved with hsame | ⟨status, hstatus⟩
      · exact hlegible row (hsame ▸ hrow)
      · rw [hstatus] at hrow
        obtain ⟨before, hbefore, rfl⟩ := Option.map_eq_some_iff.mp hrow
        obtain ⟨text, -, hdecrypt, -⟩ := hlegible before hbefore
        exact ⟨text, status, hdecrypt, rfl⟩
  | created hkey hfree hencrypt hfresh =>
      rw [hfresh] at hrow
      cases hrow
      rw [hkey]
      exact ⟨_, .readyToUpload, decrypt_same_key hcorrect hencrypt, rfl⟩
  | rotated hlookup hdecrypt hencrypt hrotated =>
      obtain ⟨text, status, htext, hstatus⟩ := hlegible _ hlookup
      rw [hdecrypt] at htext
      cases htext
      rw [hrotated] at hrow
      cases hrow
      exact ⟨text, status, decrypt_same_key hcorrect hencrypt, hstatus⟩
  | missing hbefore hafter =>
      rw [hafter] at hrow
      cases hrow
  | wiped hgone =>
      rw [hgone] at hrow
      cases hrow

theorem kept_of_rowMoves {conversationId : Id16} {text : String}
    (hcorrect : aead.Correct) (hmoves : RowMoves aead id core next operation)
    (hunwiped : operation ≠ .wipeLocalAccount)
    (hkept : Kept aead conversationId id text core) :
    Kept aead conversationId id text next := by
  obtain ⟨before, hbefore, hconversation, htext⟩ := hkept
  cases hmoves with
  | restatused hkey hmoved =>
      unfold Kept
      rw [hkey]
      rcases hmoved with hsame | ⟨status, hstatus⟩
      · exact ⟨before, hsame.trans hbefore, hconversation, htext⟩
      · rw [hbefore] at hstatus
        exact ⟨_, hstatus, hconversation, htext⟩
  | created hkey hfree hencrypt hfresh =>
      rw [hbefore] at hfree
      cases hfree
  | rotated hlookup hdecrypt hencrypt hrotated =>
      rw [hbefore] at hlookup
      cases hlookup
      rw [htext] at hdecrypt
      cases hdecrypt
      exact ⟨_, hrotated, hconversation, decrypt_same_key hcorrect hencrypt⟩
  | missing hnone hafter =>
      rw [hbefore] at hnone
      cases hnone
  | wiped hgone => exact absurd rfl hunwiped

end Moves

theorem step_reopen (aead : Aead) (core : MessengerCore) :
    step aead core .reopen = core := by
  simp only [step, reopenStore_active]

theorem legible_step {aead : Aead} (hcorrect : aead.Correct)
    (core : MessengerCore) (label : Label)
    (hlegible : ∀ id, Legible aead core id) (id : Id16) :
    Legible aead (step aead core label) id := by
  cases label with
  | call operation =>
      exact legible_of_rowMoves hcorrect (step_rowMoves aead core operation id)
        (hlegible id)
  | reopen =>
      rw [step_reopen]
      exact hlegible id

theorem legible_run {aead : Aead} (hcorrect : aead.Correct) (key : Key)
    (labels : List Label) (id : Id16) :
    Legible aead (run (step aead) (opened key) labels) id := by
  apply run_invariant (legible_step hcorrect) _ labels
  intro other row hrow
  cases hrow

theorem kept_run {aead : Aead} (hcorrect : aead.Correct) {conversationId id : Id16}
    {text : String} {core : MessengerCore} {labels : List Label}
    (hunwiped : .call .wipeLocalAccount ∉ labels)
    (hkept : Kept aead conversationId id text core) :
    Kept aead conversationId id text (run (step aead) core labels) := by
  induction labels generalizing core with
  | nil => exact hkept
  | cons label labels ih =>
      rw [List.mem_cons, not_or] at hunwiped
      apply ih hunwiped.2
      cases label with
      | call operation =>
          apply kept_of_rowMoves hcorrect (step_rowMoves aead core operation id) _
            hkept
          intro hwipe
          exact hunwiped.1 (congrArg Label.call hwipe.symm)
      | reopen =>
          rw [step_reopen]
          exact hkept

/-- A kept message is listed when all the others of its conversation can be read. -/
theorem listed_of_readable {aead : Aead} {conversationId id : Id16} {text : String}
    {core : MessengerCore}
    (hreadable : ∀ row ∈ conversationRows conversationId core.db, ∃ text status,
      decrypt aead core.masterKey row.bodyCiphertext = .ok (utf8 text) ∧
        row.status = MessageStatus.code status)
    (hkept : Kept aead conversationId id text core) :
    Listed aead conversationId id text core := by
  obtain ⟨row, hlookup, hconversation, htext⟩ := hkept
  have hread : ∀ other ∈ conversationRows conversationId core.db,
      ∃ entry, localMessage aead core.masterKey other = .ok entry := by
    intro other hother
    obtain ⟨found, status, hdecrypt, hstatus⟩ := hreadable other hother
    exact ⟨_, localMessage_eq_ok hdecrypt hstatus⟩
  obtain ⟨entries, hentries, hpairs⟩ := mapM_eq_ok hread
  have hkey : row.clientMessageId = id := Table.key_of_lookup hlookup
  subst hkey
  have hrow : row ∈ conversationRows conversationId core.db :=
    mem_conversationRows.mpr ⟨Table.mem_of_lookup hlookup, hconversation⟩
  refine ⟨entries, hentries, ?_, ?_⟩
  · rw [clientMessageIds_of_pairs hpairs]
    apply List.count_eq_one_of_mem (conversationRows_nodup conversationId core.db)
    exact List.mem_map_of_mem hrow
  · intro entry hentry hid
    obtain ⟨other, hother, hread⟩ := row_of_entry hpairs hentry
    have hsame : core.db.messages.lookup other.clientMessageId = some other :=
      Table.mem_rows_iff.mp (mem_conversationRows.mp hother).1
    rw [← clientMessageId_of_localMessage hread, hid, hlookup] at hsame
    cases hsame
    obtain ⟨found, status, -, hstatus⟩ := hreadable row hrow
    rw [localMessage_eq_ok htext hstatus] at hread
    cases hread
    rfl

theorem listed_of_kept {aead : Aead} {conversationId id : Id16} {text : String}
    {core : MessengerCore} (hlegible : ∀ id, Legible aead core id)
    (hkept : Kept aead conversationId id text core) :
    Listed aead conversationId id text core := by
  apply listed_of_readable _ hkept
  intro row hrow
  exact hlegible _ row (Table.mem_rows_iff.mp (mem_conversationRows.mp hrow).1)

/-! ## The outbox -/

/-- The message waits in the outbox. -/
def Queued (id : Id16) (core : MessengerCore) : Prop :=
  (core.db.outbox.lookup id).isSome = true

theorem queued_of_moves {id : Id16} {old new : Lifecycle} {operation : Operation}
    (hmoves : Moves id old operation new)
    (hunwiped : operation ≠ .wipeLocalAccount)
    (haccepted : operation ≠ .markUploadAccepted id)
    (hcancelled : operation ≠ .cancelPendingMessage id)
    (hqueued : old.queued = true) : new.queued = true := by
  cases hmoves with
  | stays => exact hqueued
  | created hfree => rfl
  | accepted hstatus => exact absurd rfl haccepted
  | retried hwaiting => rfl
  | cancelled hstatus => exact absurd rfl hcancelled
  | delivered hstatus hbehind => exact hqueued
  | read hstatus hbehind => exact hqueued
  | wiped => exact absurd rfl hunwiped

/-- A transaction that does not return `Ok` changes nothing. -/
theorem transaction_refused {σ : Type} {state : σ}
    {body : σ → Except CoreError (Unit × σ)}
    (hrefused : (transaction state body).1 ≠ .ok ()) :
    (transaction state body).2 = state := by
  rcases transaction_cases state body with ⟨failure, hfailure⟩ |
    ⟨value, committed, -, hcommit⟩
  · rw [hfailure]
  · rw [hcommit] at hrefused
    exact absurd rfl hrefused

theorem queued_step {aead : Aead} {id : Id16} {core : MessengerCore} {label : Label}
    (hunsettled : Unsettled aead id core label) (hqueued : Queued id core) :
    Queued id (step aead core label) := by
  cases label with
  | reopen =>
      rw [step_reopen]
      exact hqueued
  | call operation =>
      obtain ⟨hunwiped, hrefused⟩ := hunsettled
      by_cases haccept : operation = .markUploadAccepted id
      · subst haccept
        have hsame : (markUploadAccepted id core.db).2 = core.db :=
          transaction_refused (hrefused (.inl rfl))
        change ((markUploadAccepted id core.db).2.outbox.lookup id).isSome = true
        rw [hsame]
        exact hqueued
      by_cases hcancel : operation = .cancelPendingMessage id
      · subst hcancel
        have hsame : (cancelPendingMessage id core.db).2 = core.db :=
          transaction_refused (hrefused (.inr rfl))
        change ((cancelPendingMessage id core.db).2.outbox.lookup id).isSome = true
        rw [hsame]
        exact hqueued
      exact queued_of_moves (step_moves aead core operation id) hunwiped haccept
        hcancel hqueued

theorem queued_run {aead : Aead} {id : Id16} {core : MessengerCore}
    {labels : List Label}
    (hunsettled : Guarded (step aead) (Unsettled aead id) core labels)
    (hqueued : Queued id core) : Queued id (run (step aead) core labels) := by
  induction labels generalizing core with
  | nil => exact hqueued
  | cons label labels ih =>
      exact ih hunsettled.2 (queued_step hunsettled.1 hqueued)

/-! ## Whole runs -/

/-- A creation that returned the identifier has stored the message and queued
it. -/
theorem kept_of_created {aead : Aead} (hcorrect : aead.Correct) {id : Id16}
    {nonce : Nonce} {now : ℤ} {conversationId : Id16} {plaintext : String}
    {core : MessengerCore}
    (hcreated : (createMessage aead id nonce now conversationId plaintext core).1 =
      .ok id) :
    Kept aead conversationId id plaintext
        (createMessage aead id nonce now conversationId plaintext core).2 ∧
      Queued id
        (createMessage aead id nonce now conversationId plaintext core).2 := by
  unfold createMessage at hcreated ⊢
  cases hencrypt : encrypt aead core.masterKey nonce (utf8 plaintext) with
  | error failure =>
      rw [hencrypt] at hcreated
      cases hcreated
  | ok encrypted =>
      rw [hencrypt] at hcreated
      dsimp only [MessengerCore.withDatabase] at hcreated ⊢
      rcases insertCreated_cases id conversationId encrypted now core.db with
        ⟨failure, hfailure⟩ | ⟨-, -, hstored⟩
      · rw [hfailure] at hcreated
        cases hcreated
      · have hrows := (hstored id).trans (if_pos rfl)
        have houtbox := congrArg Prod.snd hrows
        dsimp only [stored] at houtbox
        refine ⟨⟨_, congrArg Prod.fst hrows, rfl,
          decrypt_same_key hcorrect hencrypt⟩, ?_⟩
        rw [Queued, houtbox]
        rfl

/-- Once `create_message` has returned, the message is listed with its text
whatever happens short of a wipe, and it waits in the outbox until it is
accepted, cancelled or wiped. -/
theorem created_message_kept (aead : Aead) (hcorrect : aead.Correct) (key : Key)
    (earlier later : List Label) (id : Id16) (nonce : Nonce) (now : ℤ)
    (conversationId : Id16) (plaintext : String)
    (hcreated : (createMessage aead id nonce now conversationId plaintext
      (run (step aead) (opened key) earlier)).1 = .ok id) :
    let created := earlier ++
      [.call (.createMessage id nonce now conversationId plaintext)]
    (.call .wipeLocalAccount ∉ later →
      Listed aead conversationId id plaintext
        (run (step aead) (opened key) (created ++ later))) ∧
    (Guarded (step aead) (Unsettled aead id)
        (run (step aead) (opened key) created) later →
      Queued id (run (step aead) (opened key) (created ++ later))) := by
  intro created
  have hcore : run (step aead) (opened key) created =
      (createMessage aead id nonce now conversationId plaintext
        (run (step aead) (opened key) earlier)).2 := by
    rw [run_append]
    rfl
  obtain ⟨hkept, hqueued⟩ := kept_of_created hcorrect hcreated
  rw [← hcore] at hkept hqueued
  constructor
  · intro hunwiped
    apply listed_of_kept (legible_run hcorrect key _)
    rw [run_append]
    exact kept_run hcorrect hunwiped hkept
  · intro hunsettled
    rw [run_append]
    exact queued_run hunsettled hqueued

/-- A rotation, a restart and a retry after the creation. -/
def afterwards : List Label :=
  [.call (.rotateMasterKey (fun _ => FixedBytes.fill 24 5) (List.replicate 32 7) 2),
    .reopen, .call (.retryMessage 1 sampleId)]

theorem message_survives_rotation_and_restart :
    Listed Aead.transparent (FixedBytes.fill 16 4) sampleId "OK"
        (run (step Aead.transparent) (opened sampleKey)
          (([] ++ [.call (.createMessage sampleId (FixedBytes.fill 24 3) 0
            (FixedBytes.fill 16 4) "OK")]) ++ afterwards)) ∧
      Queued sampleId (run (step Aead.transparent) (opened sampleKey)
          (([] ++ [.call (.createMessage sampleId (FixedBytes.fill 24 3) 0
            (FixedBytes.fill 16 4) "OK")]) ++ afterwards)) := by
  have hkept := created_message_kept Aead.transparent Aead.transparent_correct
    sampleKey [] afterwards sampleId (FixedBytes.fill 24 3) 0
    (FixedBytes.fill 16 4) "OK" (by decide +kernel)
  refine ⟨hkept.1 ?_, hkept.2 ?_⟩
  · simp [afterwards]
  · refine ⟨⟨?_, ?_⟩, trivial, ⟨?_, ?_⟩, trivial⟩
    all_goals simp

end ResilientMessenger.Durability
