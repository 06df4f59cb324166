import ResilientMessenger.Core.Statements
import ResilientMessenger.Store.Acknowledgements

/-!
# One failing statement

The calls of the store that issue several statements, written statement by
statement.  Most run them in a transaction object, so that a failure of any
one of them leaves nothing behind.  `retry_message` issues its statements in
autocommit mode and `wipe_local_account` begins and commits with plain
statements of one text; a failure of their later statements leaves a changed
row or an open transaction.
-/

namespace ResilientMessenger.Faults

open ResilientMessenger.ByteCodec
open ResilientMessenger.LocalDatabase
open ResilientMessenger.StoreOperations
open ResilientMessenger.Transaction
open ResilientMessenger.Statements

/-! ## The calls, statement by statement -/

theorem conversationId_touched (now : ℤ) (row : ConversationRow) :
    { row with updatedAtMs := now }.conversationId = row.conversationId := rfl

def createScript (id conversationId : Id16) (encrypted : Bytes) (now : ℤ) :
    Script CoreError Database Id16 := do
  Script.write fun db =>
    ((), db.insertOrIgnoreConversation ⟨conversationId, now⟩)
  Script.insert fun db => db.insertMessage
    { clientMessageId := id
      conversationId
      bodyCiphertext := encrypted
      status := MessageStatus.readyToUpload.code
      createdAtMs := now }
  Script.insert fun db => db.insertOutbox
    { clientMessageId := id, nextAttemptAtMs := now, attempts := 0 }
  Script.write fun db =>
    ((), { db with
      conversations := db.conversations.modify conversationId (fun _ => true)
        (fun row => { row with updatedAtMs := now }) (conversationId_touched now) })
  pure id

def dequeue (id : Id16) : Script CoreError Database Unit :=
  Script.write fun db => ((), { db with outbox := db.outbox.erase id })

def markScript (id : Id16) : Script CoreError Database Unit := do
  let changed ← Script.write fun db =>
    (db.messages.affects id acceptable,
      db.setStatus id acceptable .serverAccepted)
  let already ← Script.query fun db =>
    (db.messages.lookup id).map MessageRow.status
  if !changed && already ≠ some MessageStatus.serverAccepted.code then
    .fail (if already.isSome then .invalidTransition else .notFound)
  else dequeue id

/-- `SELECT attempts FROM outbox`; reading a larger value as a `u32` fails. -/
def readAttempts (id : Id16) (db : Database) :
    Except CoreError (Option ℕ × Database) :=
  match db.outbox.lookup id with
  | none => .ok (none, db)
  | some queued =>
      if 2 ^ 32 ≤ queued.attempts then .error .database
      else .ok (some queued.attempts, db)

/-- `UPDATE outbox SET attempts=attempts+1,next_attempt_at_ms=?2`. -/
def reschedule (now : ℤ) (id : Id16) (attempts : ℕ) (db : Database) : Database :=
  { db with
    outbox := db.outbox.modify id (fun _ => true)
      (fun row =>
        { row with
          attempts := row.attempts + 1
          nextAttemptAtMs := now + 1000 * 2 ^ min attempts 10 }) fun _ => rfl }

/-- The statements of `retry_message`, which no transaction surrounds. -/
def retryScript (now : ℤ) (id : Id16) : Script CoreError Database Unit := do
  let found ← Script.statement (readAttempts id)
  match found with
  | none => .fail .notFound
  | some attempts => do
      Script.write fun db => ((), reschedule now id attempts db)
      Script.write fun db =>
        ((), db.setStatus id (fun _ => true) .retryScheduled)

def cancelScript (id : Id16) : Script CoreError Database Unit := do
  let changed ← Script.write fun db =>
    (db.messages.affects id cancellable, db.setStatus id cancellable .cancelled)
  if changed then dequeue id else .fail .invalidTransition

def ingestScript : List (IncomingEvent × ℤ) → ℕ → Script CoreError Database ℕ
  | [], inserted => pure inserted
  | (event, now) :: events, inserted => do
      let isNew ← Script.write fun db => db.insertOrIgnoreInbox (event.row now)
      ingestScript events (if isNew then inserted + 1 else inserted)

/-- What the statements between the `BEGIN` and the `COMMIT` of the wipe do, in
their order.  Three of them empty tables that nothing else reads. -/
def wipeStatements : List (Database → Database) :=
  [fun db => { db with outbox := Table.empty },
    fun db => { db with inbox := Table.empty },
    fun db => { db with messages := Table.empty },
    fun db => { db with conversationMembers := Table.empty },
    fun db => { db with conversations := Table.empty },
    fun db => { db with syncCursors := Table.empty },
    -- receipts and contact_requests
    id, id,
    fun db => { db with blockedAccounts := Table.empty },
    fun db => { db with relayDirectoryCache := Table.empty },
    -- crypto_state
    id,
    fun db => { db with revision := db.revision + 1 }]

def wipeScript : List (Database → Database) → Script CoreError Database Unit
  | [] => pure ()
  | statement :: statements => do
      Script.write fun db => ((), statement db)
      wipeScript statements

/-- The calls that issue more than one statement. -/
inductive Call where
  | createMessage (id : Id16) (nonce : Nonce) (now : ℤ) (conversationId : Id16)
      (plaintext : String)
  | markUploadAccepted (id : Id16)
  | retryMessage (now : ℤ) (id : Id16)
  | cancelPendingMessage (id : Id16)
  | ingestServerBatch (events : List (IncomingEvent × ℤ))
  | wipeLocalAccount

/-- The call as one of the store's operations. -/
def Call.operation : Call → Operation
  | .createMessage id nonce now conversationId plaintext =>
      .createMessage id nonce now conversationId plaintext
  | .markUploadAccepted id => .markUploadAccepted id
  | .retryMessage now id => .retryMessage now id
  | .cancelPendingMessage id => .cancelPendingMessage id
  | .ingestServerBatch events => .ingestServerBatch events
  | .wipeLocalAccount => .wipeLocalAccount

/-- The call on a connection on which one statement may fail.  A failing
statement is reported as a database error. -/
def attempt (aead : Aead) (key : Key) (call : Call) (fault : Option ℕ)
    (connection : Connection Database) : Outcome CoreError Database Unit :=
  match call with
  | .createMessage id nonce now conversationId plaintext =>
      match encrypt aead key nonce (utf8 plaintext) with
      | .error failure => ⟨.error failure, fault, connection⟩
      | .ok encrypted =>
          (guarded .database (createScript id conversationId encrypted now) fault
            connection).forget
  | .markUploadAccepted id => guarded .database (markScript id) fault connection
  | .retryMessage now id =>
      (retryScript now id).run .database fault connection
  | .cancelPendingMessage id => guarded .database (cancelScript id) fault connection
  | .ingestServerBatch events =>
      if 50 < events.length then ⟨.error .invalidTransition, fault, connection⟩
      else (guarded .database (ingestScript events 0) fault connection).forget
  | .wipeLocalAccount =>
      batch .database (wipeScript wipeStatements) fault connection

/-- The call has returned an error, later calls see what was there before, and
no transaction is open. -/
def Undone (before : Connection Database)
    (outcome : Outcome CoreError Database Unit) : Prop :=
  (∃ failure, outcome.result = .error failure) ∧
    outcome.connection.current = before.current ∧
    outcome.connection.working = none

/-- The failing statement is not the second update of a retry and not a
statement of a wipe after its `BEGIN`. -/
def Harmless : Call → ℕ → Prop
  | .retryMessage _ _, index => index ≠ 2
  | .wipeLocalAccount, index => index = 0
  | _, _ => True

/-! ## Calls in a transaction object -/

section Guarded

variable {α : Type} {script : Script CoreError Database α}

theorem undone_guarded {db : Database} {index : ℕ}
    (hfired : (guarded .database script (some index) (.idle db)).fault = none) :
    Undone (.idle db)
      (guarded .database script (some index) (.idle db)).forget := by
  obtain ⟨⟨refused, hrefused⟩, hconnection⟩ := guarded_fired hfired
  refine ⟨⟨refused, ?_⟩, ?_, ?_⟩
  · simp only [Outcome.forget, hrefused, Except.map]
  · simp only [Outcome.forget, hconnection]
  · simp only [Outcome.forget, hconnection]
    rfl

theorem forget_unit {ε σ : Type} (outcome : Outcome ε σ Unit) :
    outcome.forget = outcome := by
  rcases outcome with ⟨result, fault, connection⟩
  cases result <;> rfl

end Guarded

/-! ## Retries and wipes -/

theorem outbox_reschedule {now : ℤ} {id : Id16} {attempts : ℕ} {db : Database}
    {queued : OutboxRow} (hqueued : db.outbox.lookup id = some queued) :
    (reschedule now id attempts db).outbox.lookup id =
      some { queued with
        attempts := queued.attempts + 1
        nextAttemptAtMs := now + 1000 * 2 ^ min attempts 10 } := by
  simp only [reschedule, Table.lookup_modify, if_true, hqueued, Option.map_some]

/-- The first update of a retry changes the row. -/
theorem reschedule_ne {now : ℤ} {id : Id16} {attempts : ℕ} {db : Database}
    {queued : OutboxRow} (hqueued : db.outbox.lookup id = some queued) :
    reschedule now id attempts db ≠ db := by
  intro hsame
  have hrow := @outbox_reschedule now id attempts db queued hqueued
  rw [hsame, hqueued, Option.some.injEq] at hrow
  have hattempts := congrArg OutboxRow.attempts hrow
  dsimp only at hattempts
  omega

theorem readAttempts_cases (id : Id16) (db : Database) :
    readAttempts id db = .ok (none, db) ∨ readAttempts id db = .error .database ∨
      ∃ queued, db.outbox.lookup id = some queued ∧
        readAttempts id db = .ok (some queued.attempts, db) := by
  unfold readAttempts
  cases db.outbox.lookup id with
  | none => exact .inl rfl
  | some queued =>
      by_cases hlarge : 2 ^ 32 ≤ queued.attempts
      · exact .inr (.inl (if_pos hlarge))
      · exact .inr (.inr ⟨queued, rfl, if_neg hlarge⟩)

/-- A retry has at most three statements, and what it has written when the
third fails stays. -/
theorem undone_retry_iff {now : ℤ} {id : Id16} {db : Database} {index : ℕ}
    (hfired : ((retryScript now id).run .database (some index)
      (.idle db)).fault = none) :
    Undone (.idle db) ((retryScript now id).run .database (some index) (.idle db)) ↔
      index ≠ 2 := by
  unfold retryScript at hfired ⊢
  cases index with
  | zero =>
      rw [run_struck]
      exact iff_of_true ⟨⟨.database, rfl⟩, rfl, rfl⟩ (by simp)
  | succ index =>
      rw [run_statement _ _ (by simp)] at hfired ⊢
      have hcurrent : (Connection.idle db).current = db := rfl
      rw [hcurrent] at hfired ⊢
      rcases readAttempts_cases id db with hnone | hlarge | ⟨queued, hqueued, hread⟩
      · rw [hnone] at hfired
        cases hfired
      · rw [hlarge] at hfired
        cases hfired
      · rw [hread] at hfired ⊢
        rcases index with _ | _ | index
        · exact iff_of_true ⟨⟨.database, rfl⟩, rfl, rfl⟩ (by simp)
        · refine iff_of_false ?_ (by simp)
          rintro ⟨-, hsame, -⟩
          exact reschedule_ne hqueued hsame
        · cases hfired

theorem undone_wipe_iff {db : Database} {index : ℕ}
    (hfired : (batch .database (wipeScript wipeStatements) (some index)
      (.idle db)).fault = none) :
    Undone (.idle db) (batch .database (wipeScript wipeStatements) (some index)
        (.idle db)) ↔ index = 0 := by
  cases index with
  | zero =>
      rw [batch_struck]
      exact iff_of_true ⟨⟨.database, rfl⟩, rfl, rfl⟩ rfl
  | succ index =>
      refine iff_of_false ?_ (by simp)
      intro hundone
      have hopen := batch_left_open hfired
      rw [hundone.2.2] at hopen
      cases hopen

/-! ## Every call -/

/-- No call ends a transaction that was open before it. -/
theorem attempt_open (aead : Aead) (key : Key) (call : Call) (fault : Option ℕ)
    {connection : Connection Database}
    (hopen : connection.working.isSome = true) :
    (attempt aead key call fault connection).connection.working.isSome = true := by
  cases call with
  | createMessage id nonce now conversationId plaintext =>
      simp only [attempt]
      split
      · exact hopen
      · simp only [Outcome.forget, guarded_open hopen, hopen]
  | markUploadAccepted id => simp only [attempt, guarded_open hopen, hopen]
  | retryMessage now id => exact (run_inside fault hopen).1
  | cancelPendingMessage id => simp only [attempt, guarded_open hopen, hopen]
  | ingestServerBatch events =>
      simp only [attempt]
      split
      · exact hopen
      · simp only [Outcome.forget, guarded_open hopen, hopen]
  | wipeLocalAccount => simp only [attempt, batch_open hopen, hopen]

theorem undone_idle_iff {aead : Aead} {key : Key} {call : Call} {db : Database}
    {index : ℕ} (hfired : (attempt aead key call (some index) (.idle db)).fault =
      none) :
    Undone (.idle db) (attempt aead key call (some index) (.idle db)) ↔
      Harmless call index := by
  cases call with
  | createMessage id nonce now conversationId plaintext =>
      simp only [attempt] at hfired ⊢
      split at hfired
      case h_1 => cases hfired
      case h_2 encrypted hencrypt =>
        exact iff_of_true (undone_guarded hfired) trivial
  | markUploadAccepted id =>
      simp only [attempt] at hfired ⊢
      rw [← forget_unit (guarded _ _ _ _)]
      exact iff_of_true (undone_guarded hfired) trivial
  | retryMessage now id => exact undone_retry_iff hfired
  | cancelPendingMessage id =>
      simp only [attempt] at hfired ⊢
      rw [← forget_unit (guarded _ _ _ _)]
      exact iff_of_true (undone_guarded hfired) trivial
  | ingestServerBatch events =>
      simp only [attempt] at hfired ⊢
      split at hfired
      case isTrue => cases hfired
      case isFalse hsize =>
        rw [if_neg hsize]
        exact iff_of_true (undone_guarded hfired) trivial
  | wipeLocalAccount => exact undone_wipe_iff hfired

/-- A call of which one statement fails returns an error and leaves no trace
exactly when no transaction was open before it and the statement is neither the
second update of a retry nor one of a wipe after its `BEGIN`. -/
theorem fault_undone_iff (aead : Aead) (key : Key) (call : Call)
    (connection : Connection Database) (index : ℕ)
    (hfired : (attempt aead key call (some index) connection).fault = none) :
    Undone connection (attempt aead key call (some index) connection) ↔
      connection.working = none ∧ Harmless call index := by
  cases hworking : connection.working with
  | none =>
      rw [idle_of_working hworking] at hfired ⊢
      simpa using undone_idle_iff hfired
  | some working =>
      refine iff_of_false ?_ (by simp)
      intro hundone
      have hopen := attempt_open aead key call (some index)
        (connection.working.isSome_iff_exists.mpr ⟨working, hworking⟩)
      rw [hundone.2.2] at hopen
      cases hopen

/-- One message that waits for its upload. -/
def waiting : Database :=
  (StoreOperations.step Aead.transparent (Acknowledgements.opened
    Acknowledgements.sampleKey) Acknowledgements.sampleCreate).db

/-- The deletion that ends an acceptance fails. -/
theorem failed_acceptance_undone :
    Undone (.idle waiting) (attempt Aead.transparent Acknowledgements.sampleKey
      (.markUploadAccepted Acknowledgements.sampleId) (some 3) (.idle waiting)) :=
  (fault_undone_iff Aead.transparent Acknowledgements.sampleKey
    (.markUploadAccepted Acknowledgements.sampleId) (.idle waiting) 3
    (by decide +kernel)).mpr ⟨rfl, trivial⟩

/-- The second update of a retry fails, and the first deletion of a wipe. -/
theorem failed_retry_and_wipe_not_undone :
    ((attempt Aead.transparent Acknowledgements.sampleKey
        (.retryMessage 0 Acknowledgements.sampleId) (some 2)
        (.idle waiting)).fault = none ∧
      ¬Undone (.idle waiting) (attempt Aead.transparent Acknowledgements.sampleKey
        (.retryMessage 0 Acknowledgements.sampleId) (some 2) (.idle waiting))) ∧
    (attempt Aead.transparent Acknowledgements.sampleKey .wipeLocalAccount
        (some 1) (.idle waiting)).fault = none ∧
      ¬Undone (.idle waiting) (attempt Aead.transparent Acknowledgements.sampleKey
        .wipeLocalAccount (some 1) (.idle waiting)) := by
  refine ⟨⟨by decide +kernel, ?_⟩, by decide +kernel, ?_⟩
  · intro hundone
    have hattempts := congrArg (fun db =>
      (db.outbox.lookup Acknowledgements.sampleId).map OutboxRow.attempts)
      hundone.2.1
    revert hattempts
    decide +kernel
  · intro hundone
    have hopen := hundone.2.2
    revert hopen
    decide +kernel

/-! ## Calls without a failing statement -/

theorem denote_createScript (id conversationId : Id16) (encrypted : Bytes)
    (now : ℤ) (db : Database) :
    transaction db (createScript id conversationId encrypted now).denote =
      insertCreated id conversationId encrypted now db := by
  unfold insertCreated
  congr 1
  funext db
  simp only [createScript, Script.denote_bind, Script.denote_write,
    Script.denote_insert, Script.denote_pure]
  cases hmessage : (db.insertOrIgnoreConversation ⟨conversationId, now⟩).insertMessage
      ⟨id, conversationId, encrypted, MessageStatus.readyToUpload.code, now⟩ with
  | error failure => rfl
  | ok inserted =>
      simp only [Except.map, bind, Except.bind]
      cases inserted.insertOutbox ⟨id, now, 0⟩ <;> rfl

theorem denote_markScript (id : Id16) (db : Database) :
    transaction db (markScript id).denote = markUploadAccepted id db := by
  unfold markUploadAccepted
  congr 1
  funext db
  simp only [markScript, Script.denote_bind, Script.denote_write,
    Script.denote_query]
  split
  · rfl
  · exact Script.denote_write _ _

theorem denote_cancelScript (id : Id16) (db : Database) :
    transaction db (cancelScript id).denote = cancelPendingMessage id db := by
  unfold cancelPendingMessage
  congr 1
  funext db
  simp only [cancelScript, Script.denote_bind, Script.denote_write]
  split
  · exact Script.denote_write _ _
  · rfl

theorem denote_ingestScript (events : List (IncomingEvent × ℤ)) (inserted : ℕ)
    (db : Database) :
    (ingestScript events inserted).denote db =
      .ok (ingestLoop events inserted db) := by
  induction events generalizing inserted db with
  | nil => rfl
  | cons head events ih =>
      simp only [ingestScript, Script.denote_bind, Script.denote_write, ih]
      rfl

theorem denote_wipeScript (statements : List (Database → Database))
    (db : Database) :
    (wipeScript statements).denote db =
      .ok ((), statements.foldl (fun db statement => statement db) db) := by
  induction statements generalizing db with
  | nil => rfl
  | cons statement statements ih =>
      simp only [wipeScript, Script.denote_bind, Script.denote_write, ih]
      rfl

/-- A retry that returns an error has written nothing. -/
theorem retry_faultless (now : ℤ) (id : Id16) (db : Database) :
    (retryScript now id).run .database none (.idle db) =
      ⟨(retryMessage now id db).1, none, .idle (retryMessage now id db).2⟩ := by
  unfold retryScript
  rw [run_statement _ _ (by simp)]
  have hcurrent : (Connection.idle db).current = db := rfl
  rw [hcurrent]
  unfold readAttempts retryMessage
  cases db.outbox.lookup id with
  | none => rfl
  | some queued =>
      by_cases hlarge : 2 ^ 32 ≤ queued.attempts
      · simp only [if_pos hlarge]
        rfl
      · simp only [if_neg hlarge]
        rfl

/-- When no statement fails, a call on an idle connection is the store's
operation. -/
theorem attempt_faultless (aead : Aead) (key : Key) (call : Call) (db : Database) :
    attempt aead key call none (.idle db) =
      ⟨(perform aead ⟨db, key⟩ call.operation).1, none,
        .idle (perform aead ⟨db, key⟩ call.operation).2.db⟩ := by
  cases call with
  | createMessage id nonce now conversationId plaintext =>
      simp only [attempt, Call.operation, perform, createMessage]
      cases encrypt aead key nonce (utf8 plaintext) with
      | error failure => rfl
      | ok encrypted =>
          simp only [guarded_faultless, denote_createScript]
          rfl
  | markUploadAccepted id =>
      simp only [attempt, guarded_faultless, denote_markScript]
      rfl
  | retryMessage now id => exact retry_faultless now id db
  | cancelPendingMessage id =>
      simp only [attempt, guarded_faultless, denote_cancelScript]
      rfl
  | ingestServerBatch events =>
      simp only [attempt, Call.operation, perform, ingestServerBatch,
        MessengerCore.withDatabase]
      split
      · rfl
      · have hloop : (ingestScript events 0).denote =
            fun db => .ok (ingestLoop events 0 db) :=
          funext (denote_ingestScript events 0)
        simp only [guarded_faultless, hloop]
        rfl
  | wipeLocalAccount =>
      exact batch_faultless (denote_wipeScript wipeStatements db)

end ResilientMessenger.Faults
