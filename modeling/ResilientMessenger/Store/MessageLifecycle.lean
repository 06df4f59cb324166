import ResilientMessenger.Store.Operations
import ResilientMessenger.Core.Runs

/-!
# The lifecycle of one message

What the store keeps about one message is its row and whether the outbox still
holds it.  This module says once what every operation does to that pair: an
exact rule for each acknowledgement, and `step_moves`, the complete list of
moves a call can make.  The invariants of whole runs are derived from these
rules and never unfold an operation again.
-/

namespace ResilientMessenger.MessageLifecycle

open ResilientMessenger.ByteCodec
open ResilientMessenger.LocalDatabase
open ResilientMessenger.StoreOperations
open ResilientMessenger.Transaction

/-! ## Rows under the statements -/

@[simp]
theorem setStatus_messages (db : Database) (id : Id16) (cond : MessageRow → Bool)
    (status : MessageStatus) (other : Id16) :
    (db.setStatus id cond status).messages.lookup other =
      if other = id then
        (db.messages.lookup id).map fun row =>
          if cond row then { row with status := status.code } else row
      else db.messages.lookup other := by
  simp [Database.setStatus, Database.updateMessage, Table.lookup_modify]

@[simp]
theorem setStatus_outbox (db : Database) (id : Id16) (cond : MessageRow → Bool)
    (status : MessageStatus) :
    (db.setStatus id cond status).outbox = db.outbox := rfl

theorem setBody_messages (db : Database) (id : Id16) (body : Bytes)
    (other : Id16) :
    (db.setBody id body).messages.lookup other =
      if other = id then
        (db.messages.lookup id).map fun row => { row with bodyCiphertext := body }
      else db.messages.lookup other := by
  simp [Database.setBody, Database.updateMessage, Table.lookup_modify]

@[simp]
theorem insertOrIgnoreConversation_messages (db : Database)
    (row : ConversationRow) :
    (db.insertOrIgnoreConversation row).messages = db.messages := by
  unfold Database.insertOrIgnoreConversation
  split <;> rfl

@[simp]
theorem insertOrIgnoreConversation_outbox (db : Database)
    (row : ConversationRow) :
    (db.insertOrIgnoreConversation row).outbox = db.outbox := by
  unfold Database.insertOrIgnoreConversation
  split <;> rfl

/-! ## The observed pair -/

/-- Everything the store holds about one message. -/
def stored (db : Database) (id : Id16) : Option MessageRow × Option OutboxRow :=
  (db.messages.lookup id, db.outbox.lookup id)

/-- The part of it that decides which operations succeed. -/
@[ext]
structure Lifecycle where
  status : Option ℤ
  queued : Bool
  deriving DecidableEq

def lifecycle (db : Database) (id : Id16) : Lifecycle where
  status := (db.messages.lookup id).map MessageRow.status
  queued := (db.outbox.lookup id).isSome

/-- No row and no outbox entry. -/
def Lifecycle.absent : Lifecycle := ⟨none, false⟩

/-! ## Acknowledgements -/

/-- A receipt raises the status and never touches the outbox. -/
theorem stored_advanceMessageStatus (id : Id16) (status : MessageStatus)
    (db : Database) (other : Id16) :
    stored (advanceMessageStatus id status db).2 other =
      if other = id then
        ((db.messages.lookup id).map fun row =>
          if row.status < status.code then { row with status := status.code }
          else row,
          db.outbox.lookup id)
      else stored db other := by
  cases hlookup : db.messages.lookup id with
  | none =>
      by_cases hother : other = id
      · subst hother
        simp [advanceMessageStatus, Table.affects, stored, hlookup]
      · simp [advanceMessageStatus, Table.affects, hlookup, hother]
  | some row =>
      by_cases hbehind : row.status < status.code <;>
        by_cases hother : other = id
      · simp [advanceMessageStatus, Table.affects, stored, hlookup, hbehind, hother]
      · simp [advanceMessageStatus, Table.affects, stored, hlookup, hbehind, hother]
      · simp [advanceMessageStatus, Table.affects, stored, hlookup, hbehind, hother]
      · simp [advanceMessageStatus, Table.affects, hlookup, hbehind, hother]

theorem advanceMessageStatus_eq_ok (id : Id16) (status : MessageStatus)
    (db : Database) :
    (advanceMessageStatus id status db).1 = .ok () ↔
      db.messages.lookup id ≠ none := by
  cases hlookup : db.messages.lookup id with
  | none => simp [advanceMessageStatus, Table.affects, hlookup]
  | some row =>
      by_cases hbehind : row.status < status.code <;>
        simp [advanceMessageStatus, Table.affects, hlookup, hbehind]

/-- An acceptance that finds the message waiting or already accepted leaves it
accepted and out of the outbox; any other is refused without effect. -/
theorem stored_markUploadAccepted (id : Id16) (db : Database) (other : Id16) :
    stored (markUploadAccepted id db).2 other =
      if other = id then
        match db.messages.lookup id with
        | none => stored db id
        | some row =>
            if acceptable row ∨ row.status = MessageStatus.serverAccepted.code then
              (some { row with status := MessageStatus.serverAccepted.code }, none)
            else stored db id
      else stored db other := by
  cases hlookup : db.messages.lookup id with
  | none =>
      by_cases hother : other = id
      · subst hother
        simp [markUploadAccepted, transaction, Table.affects, hlookup]
      · simp [markUploadAccepted, transaction, Table.affects, hlookup, hother]
  | some row =>
      by_cases haccept : acceptable row
      · by_cases hother : other = id <;>
          simp [markUploadAccepted, transaction, Table.affects, stored, hlookup,
            haccept, hother]
      · by_cases halready : row.status = MessageStatus.serverAccepted.code
        · have hrow : { row with status := MessageStatus.serverAccepted.code } =
              row := by rw [← halready]
          by_cases hother : other = id <;>
            simp [markUploadAccepted, transaction, Table.affects, stored, hlookup,
              haccept, halready, hrow, hother]
        · by_cases hother : other = id <;>
            simp [markUploadAccepted, transaction, Table.affects, hlookup, haccept,
              halready, hother]

/-- A cancellation that finds the message still local ends it and takes it out
of the outbox; any other is refused without effect. -/
theorem stored_cancelPendingMessage (id : Id16) (db : Database) (other : Id16) :
    stored (cancelPendingMessage id db).2 other =
      if other = id then
        match db.messages.lookup id with
        | none => stored db id
        | some row =>
            if cancellable row then
              (some { row with status := MessageStatus.cancelled.code }, none)
            else stored db id
      else stored db other := by
  cases hlookup : db.messages.lookup id with
  | none =>
      by_cases hother : other = id <;>
        simp [cancelPendingMessage, transaction, Table.affects, hlookup, hother]
  | some row =>
      by_cases hcancel : cancellable row
      · by_cases hother : other = id <;>
          simp [cancelPendingMessage, transaction, Table.affects, stored, hlookup,
            hcancel, hother]
      · by_cases hother : other = id <;>
          simp [cancelPendingMessage, transaction, Table.affects, hlookup, hcancel,
            hother]

/-! ## Creation, retry and rotation -/

/-- The outbox row of a message that was just created. -/
def freshOutboxRow (id : Id16) (now : ℤ) : OutboxRow where
  clientMessageId := id
  nextAttemptAtMs := now
  attempts := 0

/-- The message row of a message that was just created. -/
def freshMessageRow (id conversationId : Id16) (encrypted : Bytes) (now : ℤ) :
    MessageRow where
  clientMessageId := id
  conversationId
  bodyCiphertext := encrypted
  status := MessageStatus.readyToUpload.code
  createdAtMs := now

/-- An insertion into `messages` that succeeds adds the row and advances the counter. -/
theorem insertMessage_result {db result : Database} {row : MessageRow}
    (hinsert : db.insertMessage row = .ok result) :
    ∃ messages, db.messages.insert? row = some messages ∧
      result = { db with messages, revision := db.revision + 1 } := by
  unfold Database.insertMessage at hinsert
  split at hinsert
  · cases hinsert
  · split at hinsert
    case h_1 messages hmessages =>
      cases hinsert
      exact ⟨messages, hmessages, rfl⟩
    case h_2 => cases hinsert

theorem insertOutbox_result {db result : Database} {row : OutboxRow}
    (hinsert : db.insertOutbox row = .ok result) :
    ∃ outbox, db.outbox.insert? row = some outbox ∧ result = { db with outbox } := by
  unfold Database.insertOutbox at hinsert
  split at hinsert
  · cases hinsert
  · split at hinsert
    case h_1 outbox houtbox =>
      cases hinsert
      exact ⟨outbox, houtbox, rfl⟩
    case h_2 => cases hinsert

theorem insertMessage_eq_ok {db result : Database} {row : MessageRow}
    (hinsert : db.insertMessage row = .ok result) :
    db.messages.lookup row.clientMessageId = none ∧
      (∀ other, result.messages.lookup other =
        if other = row.clientMessageId then some row
        else db.messages.lookup other) ∧
      result.outbox = db.outbox := by
  obtain ⟨messages, hmessages, rfl⟩ := insertMessage_result hinsert
  exact ⟨(Table.insert?_eq_some_iff.mp hmessages).1, Table.lookup_insert? hmessages, rfl⟩

theorem insertOutbox_eq_ok {db result : Database} {row : OutboxRow}
    (hinsert : db.insertOutbox row = .ok result) :
    db.outbox.lookup row.clientMessageId = none ∧
      (∀ other, result.outbox.lookup other =
        if other = row.clientMessageId then some row
        else db.outbox.lookup other) ∧
      result.messages = db.messages := by
  obtain ⟨outbox, houtbox, rfl⟩ := insertOutbox_result hinsert
  exact ⟨(Table.insert?_eq_some_iff.mp houtbox).1, Table.lookup_insert? houtbox, rfl⟩

theorem insertMessage_of_free (db : Database) (row : MessageRow)
    (hconversation : db.conversations.lookup row.conversationId ≠ none)
    (hfree : db.messages.lookup row.clientMessageId = none) :
    ∃ result, db.insertMessage row = .ok result := by
  unfold Database.insertMessage
  rw [if_neg hconversation]
  cases hinsert : db.messages.insert? row with
  | none => exact absurd hfree (Table.insert?_eq_none_iff.mp hinsert)
  | some messages => exact ⟨_, rfl⟩

theorem insertOutbox_of_free (db : Database) (row : OutboxRow)
    (hmessage : db.messages.lookup row.clientMessageId ≠ none)
    (hfree : db.outbox.lookup row.clientMessageId = none) :
    ∃ result, db.insertOutbox row = .ok result := by
  unfold Database.insertOutbox
  rw [if_neg hmessage]
  cases hinsert : db.outbox.insert? row with
  | none => exact absurd hfree (Table.insert?_eq_none_iff.mp hinsert)
  | some outbox => exact ⟨_, rfl⟩

/-- Either the transaction rolls back, or the id was free in both tables and
now has one row in each. -/
theorem insertCreated_cases (id conversationId : Id16) (encrypted : Bytes)
    (now : ℤ) (db : Database) :
    (∃ failure, insertCreated id conversationId encrypted now db =
        (.error failure, db)) ∨
      (insertCreated id conversationId encrypted now db).1 = .ok id ∧
        stored db id = (none, none) ∧
        ∀ other, stored (insertCreated id conversationId encrypted now db).2 other =
          if other = id then
            (some (freshMessageRow id conversationId encrypted now),
              some (freshOutboxRow id now))
          else stored db other := by
  unfold insertCreated
  rcases transaction_cases db _ with ⟨failure, hfailure⟩ |
    ⟨value, committed, hbody, hcommit⟩
  · exact .inl ⟨failure, hfailure⟩
  · rw [hcommit]
    simp only [bind_eq_ok, pure_eq_ok, Prod.mk.injEq] at hbody
    obtain ⟨inserted, hmessage, queued, houtbox, rfl, rfl⟩ := hbody
    obtain ⟨hfreeMessage, hmessages, hsameOutbox⟩ := insertMessage_eq_ok hmessage
    obtain ⟨hfreeOutbox, hqueued, hsameMessages⟩ := insertOutbox_eq_ok houtbox
    rw [insertOrIgnoreConversation_messages] at hfreeMessage
    rw [hsameOutbox, insertOrIgnoreConversation_outbox] at hfreeOutbox
    refine .inr ⟨rfl, by simp [stored, hfreeMessage, hfreeOutbox], fun other => ?_⟩
    simp only [stored, hsameMessages, hmessages, hqueued, hsameOutbox,
      insertOrIgnoreConversation_messages, insertOrIgnoreConversation_outbox]
    by_cases hother : other = id <;>
      simp [hother, freshMessageRow, freshOutboxRow]

theorem insertOrIgnoreConversation_result (db : Database) (row : ConversationRow) :
    ∃ conversations revision, db.revision ≤ revision ∧
      db.insertOrIgnoreConversation row = { db with conversations, revision } := by
  unfold Database.insertOrIgnoreConversation
  split
  · exact ⟨_, _, (Int.lt_succ db.revision).le, rfl⟩
  · exact ⟨_, _, le_rfl, rfl⟩

/-- Whatever it stores, the transaction keeps to three tables and the counter, which it
advances. -/
theorem insertCreated_frame (id conversationId : Id16) (encrypted : Bytes) (now : ℤ)
    (db : Database) :
    (∃ failure, insertCreated id conversationId encrypted now db =
        (.error failure, db)) ∨
      ∃ conversations messages outbox revision, db.revision < revision ∧
        insertCreated id conversationId encrypted now db =
          (.ok id, { db with conversations, messages, outbox, revision }) := by
  unfold insertCreated
  rcases transaction_cases db _ with ⟨failure, hfailure⟩ |
    ⟨value, committed, hbody, hcommit⟩
  · exact .inl ⟨failure, hfailure⟩
  · rw [hcommit]
    simp only [bind_eq_ok, pure_eq_ok, Prod.mk.injEq] at hbody
    obtain ⟨inserted, hinsert, queued, hqueue, rfl, rfl⟩ := hbody
    obtain ⟨messages, -, rfl⟩ := insertMessage_result hinsert
    obtain ⟨outbox, -, rfl⟩ := insertOutbox_result hqueue
    obtain ⟨conversations, revision, hrevision, hcreated⟩ :=
      insertOrIgnoreConversation_result db ⟨conversationId, now⟩
    rw [hcreated]
    exact .inr ⟨_, messages, outbox, revision + 1, Int.lt_add_one_of_le hrevision, rfl⟩

/-- A free id is never refused: the transaction creates the conversation that
the foreign key asks for. -/
theorem insertCreated_of_free {db : Database} {id : Id16} (conversationId : Id16)
    (encrypted : Bytes) (now : ℤ) (hfree : stored db id = (none, none)) :
    (insertCreated id conversationId encrypted now db).1 = .ok id := by
  have hconversation : (db.insertOrIgnoreConversation
      ⟨conversationId, now⟩).conversations.lookup conversationId ≠ none := by
    unfold Database.insertOrIgnoreConversation
    cases hinsert : db.conversations.insert? ⟨conversationId, now⟩ with
    | none => exact Table.insert?_eq_none_iff.mp hinsert
    | some conversations =>
        simp [Table.lookup_insert? hinsert]
  rw [stored, Prod.mk.injEq] at hfree
  obtain ⟨inserted, hmessage⟩ := insertMessage_of_free _
    (freshMessageRow id conversationId encrypted now) hconversation
    (by simpa [freshMessageRow] using hfree.1)
  obtain ⟨-, hmessages, hsameOutbox⟩ := insertMessage_eq_ok hmessage
  obtain ⟨queued, houtbox⟩ := insertOutbox_of_free inserted
    (freshOutboxRow id now)
    (by simp [hmessages, freshMessageRow, freshOutboxRow])
    (by simpa [hsameOutbox, freshOutboxRow] using hfree.2)
  unfold insertCreated
  rw [freshMessageRow] at hmessage
  rw [freshOutboxRow] at houtbox
  simp only [transaction, hmessage, houtbox, bind, Except.bind]
  rfl

/-- A retry that finds an outbox row overwrites whatever status the message
has. -/
theorem retryMessage_cases (now : ℤ) (id : Id16) (db : Database) :
    (∃ failure, retryMessage now id db = (.error failure, db)) ∨
      (retryMessage now id db).1 = .ok () ∧
        (lifecycle db id).queued = true ∧
        ∀ other, lifecycle (retryMessage now id db).2 other =
          if other = id then
            ⟨(lifecycle db id).status.map fun _ =>
              MessageStatus.retryScheduled.code, true⟩
          else lifecycle db other := by
  cases hlookup : db.outbox.lookup id with
  | none => exact .inl ⟨.notFound, by simp [retryMessage, hlookup]⟩
  | some queued =>
      by_cases hattempts : 2 ^ 32 ≤ queued.attempts
      · exact .inl ⟨.database, by
          simp only [retryMessage, hlookup, if_pos hattempts]⟩
      · refine .inr ⟨by simp only [retryMessage, hlookup, if_neg hattempts],
          by simp [lifecycle, hlookup], fun other => ?_⟩
        simp only [retryMessage, hlookup, if_neg hattempts, lifecycle,
          setStatus_messages, setStatus_outbox, Table.lookup_modify]
        by_cases hother : other = id
        · simp [hother, Function.comp_def]
        · simp [hother]

theorem lifecycle_setBody (db : Database) (target : Id16) (body : Bytes)
    (id : Id16) : lifecycle (db.setBody target body) id = lifecycle db id := by
  ext1
  · by_cases hid : id = target
    · subst hid
      simp only [lifecycle, setBody_messages, if_true, Option.map_map]
      rfl
    · simp [lifecycle, setBody_messages, hid]
  · rfl

/-- What every single re-encryption keeps, the loop keeps. -/
theorem reencrypt_keeps {P : Database → Prop} {aead : Aead} {active replacement : Key}
    {nonces : Id16 → Nonce} {rows : List MessageRow} {db result : Database}
    (hloop : reencrypt aead active replacement nonces rows db = .ok result)
    (hstart : P db)
    (hstep : ∀ row ∈ rows, ∀ body current, P current →
      P (current.setBody row.clientMessageId body)) : P result := by
  induction rows generalizing db with
  | nil =>
      cases hloop
      exact hstart
  | cons row rows ih =>
      simp only [reencrypt, bind_eq_ok] at hloop
      obtain ⟨plaintext, -, body, -, hrest⟩ := hloop
      apply ih hrest (hstep row List.mem_cons_self body db hstart)
      intro other hother
      exact hstep other (List.mem_cons_of_mem row hother)

/-- Re-encryption changes bodies only. -/
theorem lifecycle_reencrypt {aead : Aead} {active replacement : Key}
    {nonces : Id16 → Nonce} {rows : List MessageRow} {db result : Database}
    (hloop : reencrypt aead active replacement nonces rows db = .ok result)
    (id : Id16) : lifecycle result id = lifecycle db id := by
  apply reencrypt_keeps (P := fun current => lifecycle current id = lifecycle db id)
    hloop rfl
  intro row _ body current hcurrent
  rw [lifecycle_setBody, hcurrent]

/-- A rotation is refused and changes nothing, or it installs the new key and leaves
what the loop leaves, with the new version. -/
theorem rotateMasterKey_outcome (aead : Aead) (nonces : Id16 → Nonce)
    (newKey : Bytes) (newVersion : UInt32) (core : MessengerCore) :
    (∃ failure, rotateMasterKey aead nonces newKey newVersion core =
        (.error failure, core)) ∨
      ∃ replacement reencrypted,
        reencrypt aead core.masterKey replacement nonces core.db.messages.rows core.db =
          .ok reencrypted ∧
        rotateMasterKey aead nonces newKey newVersion core =
          (.ok (), ⟨{ reencrypted with keyVersion := newVersion.toNat },
            replacement⟩) := by
  unfold rotateMasterKey
  cases FixedBytes.ofBytes? 32 newKey with
  | none => exact .inl ⟨_, rfl⟩
  | some replacement =>
      dsimp only
      rcases transaction_cases core.db _ with ⟨failure, hfailure⟩ |
        ⟨value, committed, hbody, hcommit⟩
      · rw [hfailure]
        exact .inl ⟨failure, rfl⟩
      · rw [hcommit]
        split at hbody
        · cases hbody
        · simp only [bind_eq_ok, pure_eq_ok, Prod.mk.injEq] at hbody
          obtain ⟨reencrypted, hloop, -, rfl⟩ := hbody
          exact .inr ⟨replacement, reencrypted, hloop, rfl⟩

theorem lifecycle_rotateMasterKey (aead : Aead) (nonces : Id16 → Nonce)
    (newKey : Bytes) (newVersion : UInt32) (core : MessengerCore) (id : Id16) :
    lifecycle (rotateMasterKey aead nonces newKey newVersion core).2.db id =
      lifecycle core.db id := by
  rcases rotateMasterKey_outcome aead nonces newKey newVersion core with
    ⟨failure, hfailure⟩ | ⟨replacement, reencrypted, hloop, hrotated⟩
  · rw [hfailure]
  · rw [hrotated]
    exact lifecycle_reencrypt hloop id

/-! ## Calls about other tables -/

/-- A call that leaves both tables alone leaves every lifecycle alone. -/
theorem lifecycle_congr {left right : Database}
    (hmessages : left.messages = right.messages)
    (houtbox : left.outbox = right.outbox) (id : Id16) :
    lifecycle left id = lifecycle right id := by
  simp [lifecycle, hmessages, houtbox]

theorem insertOrIgnoreInbox_tables (db : Database) (row : InboxRow) :
    (db.insertOrIgnoreInbox row).2.messages = db.messages ∧
      (db.insertOrIgnoreInbox row).2.outbox = db.outbox := by
  unfold Database.insertOrIgnoreInbox
  split <;> exact ⟨rfl, rfl⟩

theorem ingestLoop_tables (events : List (IncomingEvent × ℤ)) (inserted : ℕ)
    (db : Database) :
    (ingestLoop events inserted db).2.messages = db.messages ∧
      (ingestLoop events inserted db).2.outbox = db.outbox := by
  induction events generalizing inserted db with
  | nil => exact ⟨rfl, rfl⟩
  | cons head events ih =>
      obtain ⟨hmessages, houtbox⟩ :=
        insertOrIgnoreInbox_tables db (head.1.row head.2)
      rw [ingestLoop]
      exact ⟨(ih _ _).1.trans hmessages, (ih _ _).2.trans houtbox⟩

theorem ingestServerBatch_tables (events : List (IncomingEvent × ℤ))
    (db : Database) :
    (ingestServerBatch events db).2.messages = db.messages ∧
      (ingestServerBatch events db).2.outbox = db.outbox := by
  unfold ingestServerBatch
  split
  · exact ⟨rfl, rfl⟩
  · exact ingestLoop_tables events 0 db

/-! ## Every move -/

/-- The moves one call can make on the message `id`. -/
inductive Moves (id : Id16) (old : Lifecycle) : Operation → Lifecycle → Prop
  | stays {operation} : Moves id old operation old
  | created {nonce now conversationId plaintext} (hfree : old = .absent) :
      Moves id old (.createMessage id nonce now conversationId plaintext)
        ⟨some MessageStatus.readyToUpload.code, true⟩
  | accepted
      (hstatus : old.status = some MessageStatus.readyToUpload.code ∨
        old.status = some MessageStatus.uploading.code ∨
        old.status = some MessageStatus.retryScheduled.code ∨
        old.status = some MessageStatus.serverAccepted.code) :
      Moves id old (.markUploadAccepted id)
        ⟨some MessageStatus.serverAccepted.code, false⟩
  | retried {now} (hqueued : old.queued = true) :
      Moves id old (.retryMessage now id)
        ⟨old.status.map fun _ => MessageStatus.retryScheduled.code, true⟩
  | cancelled
      (hstatus : old.status = some MessageStatus.queued.code ∨
        old.status = some MessageStatus.readyToUpload.code ∨
        old.status = some MessageStatus.retryScheduled.code) :
      Moves id old (.cancelPendingMessage id)
        ⟨some MessageStatus.cancelled.code, false⟩
  | delivered {status} (hstatus : old.status = some status)
      (hbehind : status < MessageStatus.delivered.code) :
      Moves id old (.applyDeliveryReceipt id)
        ⟨some MessageStatus.delivered.code, old.queued⟩
  | read {status} (hstatus : old.status = some status)
      (hbehind : status < MessageStatus.read.code) :
      Moves id old (.applyReadReceipt id)
        ⟨some MessageStatus.read.code, old.queued⟩
  | wiped : Moves id old .wipeLocalAccount .absent

theorem Moves.of_eq {id : Id16} {old new : Lifecycle} {operation : Operation}
    (heq : new = old) : Moves id old operation new :=
  heq ▸ .stays

theorem lifecycle_of_stored {left right : Database} {id : Id16}
    (hstored : stored left id = stored right id) :
    lifecycle left id = lifecycle right id := by
  simp only [stored, Prod.mk.injEq] at hstored
  simp [lifecycle, hstored]

theorem lifecycle_of_stored_eq {db : Database} {id : Id16} {message : Option MessageRow}
    {queued : Option OutboxRow} (hstored : stored db id = (message, queued)) :
    lifecycle db id = ⟨message.map MessageRow.status, queued.isSome⟩ := by
  simp only [stored, Prod.mk.injEq] at hstored
  simp [lifecycle, hstored]

private theorem moves_createMessage (aead : Aead) (target : Id16) (nonce : Nonce)
    (now : ℤ) (conversationId : Id16) (plaintext : String) (core : MessengerCore)
    (id : Id16) :
    Moves id (lifecycle core.db id)
      (.createMessage target nonce now conversationId plaintext)
      (lifecycle
        (createMessage aead target nonce now conversationId plaintext core).2.db
        id) := by
  unfold createMessage
  cases encrypt aead core.masterKey nonce (utf8 plaintext) with
  | error failure => exact .stays
  | ok encrypted =>
      change Moves id _ _
        (lifecycle (insertCreated target conversationId encrypted now core.db).2 id)
      rcases insertCreated_cases target conversationId encrypted now core.db with
        ⟨failure, hfailure⟩ | ⟨-, hfree, hstored⟩
      · rw [hfailure]
        exact .stays
      · by_cases hid : id = target
        · subst hid
          rw [lifecycle_of_stored_eq ((hstored id).trans (if_pos rfl))]
          exact .created (lifecycle_of_stored_eq hfree)
        · exact .of_eq (lifecycle_of_stored ((hstored id).trans (if_neg hid)))

/-- A call that either settles a message, which takes it out of the outbox, or
changes nothing. -/
theorem settled_cases {db next : Database} {target id : Id16}
    {cond : MessageRow → Prop} [DecidablePred cond] {code : ℤ}
    (hstored : stored next id =
      if id = target then
        match db.messages.lookup target with
        | none => stored db target
        | some row =>
            if cond row then (some { row with status := code }, none)
            else stored db target
      else stored db id) :
    stored next id = stored db id ∨
      id = target ∧ ∃ row, db.messages.lookup id = some row ∧ cond row ∧
        stored next id = (some { row with status := code }, none) := by
  by_cases hid : id = target
  · subst hid
    rw [if_pos rfl] at hstored
    cases hlookup : db.messages.lookup id with
    | none =>
        simp only [hlookup] at hstored
        exact .inl hstored
    | some row =>
        simp only [hlookup] at hstored
        split_ifs at hstored with hcond
        · exact .inr ⟨rfl, row, rfl, hcond, hstored⟩
        · exact .inl hstored
  · rw [if_neg hid] at hstored
    exact .inl hstored

theorem lifecycle_of_settled {db next : Database} {target id : Id16}
    {cond : MessageRow → Prop} [DecidablePred cond] {code : ℤ}
    (hstored : stored next id =
      if id = target then
        match db.messages.lookup target with
        | none => stored db target
        | some row =>
            if cond row then (some { row with status := code }, none)
            else stored db target
      else stored db id) :
    lifecycle next id = lifecycle db id ∨
      id = target ∧ lifecycle next id = ⟨some code, false⟩ ∧
        ∃ row, cond row ∧ (lifecycle db id).status = some row.status := by
  rcases settled_cases hstored with hsame | ⟨hid, row, hlookup, hcond, hsettled⟩
  · exact .inl (lifecycle_of_stored hsame)
  · have hstatus : (lifecycle db id).status = some row.status := by
      simp [lifecycle, hlookup]
    exact .inr ⟨hid, lifecycle_of_stored_eq hsettled, row, hcond, hstatus⟩

private theorem moves_markUploadAccepted (target : Id16) (db : Database)
    (id : Id16) :
    Moves id (lifecycle db id) (.markUploadAccepted target)
      (lifecycle (markUploadAccepted target db).2 id) := by
  rcases lifecycle_of_settled (stored_markUploadAccepted target db id) with
    hsame | ⟨rfl, hsettled, row, haccept, hstatus⟩
  · exact .of_eq hsame
  · rw [hsettled]
    apply Moves.accepted
    simpa [hstatus, acceptable, or_assoc] using haccept

private theorem moves_retryMessage (now : ℤ) (target : Id16) (db : Database)
    (id : Id16) :
    Moves id (lifecycle db id) (.retryMessage now target)
      (lifecycle (retryMessage now target db).2 id) := by
  rcases retryMessage_cases now target db with
    ⟨failure, hfailure⟩ | ⟨-, hqueued, hlifecycle⟩
  · rw [hfailure]
    exact .stays
  · rw [hlifecycle id]
    by_cases hid : id = target
    · subst hid
      rw [if_pos rfl]
      exact .retried hqueued
    · rw [if_neg hid]
      exact .stays

private theorem moves_cancelPendingMessage (target : Id16) (db : Database)
    (id : Id16) :
    Moves id (lifecycle db id) (.cancelPendingMessage target)
      (lifecycle (cancelPendingMessage target db).2 id) := by
  rcases lifecycle_of_settled (stored_cancelPendingMessage target db id) with
    hsame | ⟨rfl, hsettled, row, hcancel, hstatus⟩
  · exact .of_eq hsame
  · rw [hsettled]
    apply Moves.cancelled
    simpa [hstatus, cancellable] using hcancel

theorem lifecycle_advance_of_behind {id : Id16} {status : MessageStatus}
    {db : Database} {behind : ℤ} (hstatus : (lifecycle db id).status = some behind)
    (hbehind : behind < status.code) :
    lifecycle (advanceMessageStatus id status db).2 id =
      ⟨some status.code, (lifecycle db id).queued⟩ := by
  have hstored := stored_advanceMessageStatus id status db id
  obtain ⟨row, hlookup, rfl⟩ := Option.map_eq_some_iff.mp hstatus
  rw [if_pos rfl, hlookup, Option.map_some, if_pos hbehind] at hstored
  rw [lifecycle_of_stored_eq hstored]
  rfl

/-- A receipt either finds the message behind its status and raises it, or
changes nothing. -/
theorem advanceMessageStatus_cases (target : Id16) (status : MessageStatus)
    (db : Database) (id : Id16) :
    lifecycle (advanceMessageStatus target status db).2 id = lifecycle db id ∨
      id = target ∧ ∃ behind, (lifecycle db id).status = some behind ∧
        behind < status.code ∧
        lifecycle (advanceMessageStatus target status db).2 id =
          ⟨some status.code, (lifecycle db id).queued⟩ := by
  have hstored := stored_advanceMessageStatus target status db id
  by_cases hid : id = target
  · subst hid
    cases hlookup : db.messages.lookup id with
    | none =>
        refine .inl (lifecycle_of_stored (hstored.trans ?_))
        simp [stored, hlookup]
    | some row =>
        have hstatus : (lifecycle db id).status = some row.status := by
          simp [lifecycle, hlookup]
        by_cases hbehind : row.status < status.code
        · exact .inr ⟨rfl, row.status, hstatus, hbehind,
            lifecycle_advance_of_behind hstatus hbehind⟩
        · refine .inl (lifecycle_of_stored (hstored.trans ?_))
          simp [stored, hlookup, hbehind]
  · rw [if_neg hid] at hstored
    exact .inl (lifecycle_of_stored hstored)

private theorem moves_applyDeliveryReceipt (target : Id16) (db : Database)
    (id : Id16) :
    Moves id (lifecycle db id) (.applyDeliveryReceipt target)
      (lifecycle (applyDeliveryReceipt target db).2 id) := by
  rcases advanceMessageStatus_cases target .delivered db id with
    hsame | ⟨rfl, behind, hstatus, hbehind, hraised⟩
  · exact .of_eq hsame
  · rw [applyDeliveryReceipt, hraised]
    exact .delivered hstatus hbehind

private theorem moves_applyReadReceipt (target : Id16) (db : Database)
    (id : Id16) :
    Moves id (lifecycle db id) (.applyReadReceipt target)
      (lifecycle (applyReadReceipt target db).2 id) := by
  rcases advanceMessageStatus_cases target .read db id with
    hsame | ⟨rfl, behind, hstatus, hbehind, hraised⟩
  · exact .of_eq hsame
  · rw [applyReadReceipt, hraised]
    exact .read hstatus hbehind

/-- One call moves the lifecycle of every message by one of the listed
moves. -/
theorem step_moves (aead : Aead) (core : MessengerCore) (operation : Operation)
    (id : Id16) :
    Moves id (lifecycle core.db id) operation
      (lifecycle (step aead core operation).db id) := by
  cases operation with
  | createMessage target nonce now conversationId plaintext =>
      exact moves_createMessage aead target nonce now conversationId plaintext core id
  | markUploadAccepted target => exact moves_markUploadAccepted target core.db id
  | retryMessage now target => exact moves_retryMessage now target core.db id
  | cancelPendingMessage target => exact moves_cancelPendingMessage target core.db id
  | applyDeliveryReceipt target => exact moves_applyDeliveryReceipt target core.db id
  | applyReadReceipt target => exact moves_applyReadReceipt target core.db id
  | createGroup now groupId =>
      exact .of_eq (lifecycle_congr
        (insertOrIgnoreConversation_messages core.db ⟨groupId, now⟩)
        (insertOrIgnoreConversation_outbox core.db ⟨groupId, now⟩) id)
  | addMember groupId deviceId accountId =>
      change Moves id _ _ (lifecycle (addMember groupId deviceId accountId core.db).2 id)
      unfold addMember
      split <;> exact .stays
  | removeMember now groupId deviceId =>
      change Moves id _ _ (lifecycle (removeMember now groupId deviceId core.db).2 id)
      unfold removeMember
      dsimp only
      split <;> exact .stays
  | ingestServerEvent now event =>
      obtain ⟨hmessages, houtbox⟩ :=
        insertOrIgnoreInbox_tables core.db (event.row now)
      exact .of_eq (lifecycle_congr hmessages houtbox id)
  | ingestServerBatch events =>
      obtain ⟨hmessages, houtbox⟩ := ingestServerBatch_tables events core.db
      exact .of_eq (lifecycle_congr hmessages houtbox id)
  | setSyncCursor scope cursor =>
      change Moves id _ _ (lifecycle (setSyncCursor scope cursor core.db).2 id)
      unfold setSyncCursor
      dsimp only
      split_ifs <;> exact .stays
  | blockAccount now accountId => exact .stays
  | unblockAccount accountId => exact .stays
  | setNetworkMode mode => exact .stays
  | cacheRelayDirectory directory =>
      change Moves id _ _ (lifecycle (cacheRelayDirectory directory core.db).2 id)
      unfold cacheRelayDirectory
      dsimp only
      split_ifs <;> exact .stays
  | rotateMasterKey nonces newKey newVersion =>
      exact .of_eq (lifecycle_rotateMasterKey aead nonces newKey newVersion core id)
  | wipeLocalAccount => exact .wiped

end ResilientMessenger.MessageLifecycle
