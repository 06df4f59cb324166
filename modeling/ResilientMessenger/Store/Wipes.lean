import ResilientMessenger.Store.Readings

/-!
# A wipe erases the history

After `wipe_local_account` nothing is left of the history but the key, its version,
the network mode and the change counter.  No call reads the counter except to advance
it, and `observe_conversation_changes` to show it.  So two stores that agree in the
first three give the same answers to all calls after a wipe, the counter apart.
-/

namespace ResilientMessenger.Wipes

open ResilientMessenger.ByteCodec
open ResilientMessenger.LocalDatabase
open ResilientMessenger.StoreOperations
open ResilientMessenger.Transaction
open ResilientMessenger.Readings
open ResilientMessenger.Runs
open ResilientMessenger.Acknowledgements (opened sampleKey sampleCreate)

/-! ## Statements that do not read the counter -/

/-- The databases differ in their counters only. -/
def Alike (left right : Database) : Prop := ∃ revision, right = { left with revision }

/-- The answers are the same and the databases alike. -/
def AlikeOutcomes {α : Type} (left right : α × Database) : Prop :=
  left.1 = right.1 ∧ Alike left.2 right.2

/-- The call answers the same whatever the counter is, and leaves alike databases. -/
def Blind {α : Type} (call : Database → α × Database) : Prop :=
  ∀ left right, Alike left right → AlikeOutcomes (call left) (call right)

section Statements

variable {left right : Database}

theorem alike_insertOrIgnoreConversation (halike : Alike left right)
    (row : ConversationRow) :
    Alike (left.insertOrIgnoreConversation row) (right.insertOrIgnoreConversation row) := by
  obtain ⟨revision, rfl⟩ := halike
  unfold Database.insertOrIgnoreConversation
  dsimp only
  split <;> exact ⟨_, rfl⟩

theorem matching_insertMessage (halike : Alike left right) (row : MessageRow) :
    Matching Alike (left.insertMessage row) (right.insertMessage row) := by
  obtain ⟨revision, rfl⟩ := halike
  unfold Database.insertMessage
  dsimp only
  split
  · exact .error _
  · split
    · exact .ok ⟨_, rfl⟩
    · exact .error _

theorem matching_insertOutbox (halike : Alike left right) (row : OutboxRow) :
    Matching Alike (left.insertOutbox row) (right.insertOutbox row) := by
  obtain ⟨revision, rfl⟩ := halike
  unfold Database.insertOutbox
  dsimp only
  split
  · exact .error _
  · split
    · exact .ok ⟨_, rfl⟩
    · exact .error _

theorem alike_setBody (halike : Alike left right) (id : Id16) (body : Bytes) :
    Alike (left.setBody id body) (right.setBody id body) := by
  obtain ⟨revision, rfl⟩ := halike
  exact ⟨_, rfl⟩

theorem alikeOutcomes_insertOrIgnoreInbox (halike : Alike left right) (row : InboxRow) :
    AlikeOutcomes (left.insertOrIgnoreInbox row) (right.insertOrIgnoreInbox row) := by
  obtain ⟨revision, rfl⟩ := halike
  unfold Database.insertOrIgnoreInbox
  dsimp only
  split <;> exact ⟨rfl, _, rfl⟩

end Statements

/-! ## Calls that do not read the counter -/

theorem blind_transaction {α : Type} {body : Database → Except CoreError (α × Database)}
    (hbody : ∀ left right, Alike left right →
      Matching AlikeOutcomes (body left) (body right)) :
    Blind fun db => transaction db body := by
  intro left right halike
  exact transaction_matching halike (hbody left right halike)

theorem blind_insertCreated (id conversationId : Id16) (encrypted : Bytes) (now : ℤ) :
    Blind (insertCreated id conversationId encrypted now) := by
  apply blind_transaction
  intro left right halike
  refine matching_bind (matching_insertMessage
    (alike_insertOrIgnoreConversation halike _) _) ?_
  intro left right halike
  refine matching_bind (matching_insertOutbox halike _) ?_
  rintro left _ ⟨revision, rfl⟩
  exact .ok ⟨rfl, _, rfl⟩

theorem blind_markUploadAccepted (id : Id16) : Blind (markUploadAccepted id) := by
  apply blind_transaction
  rintro left _ ⟨revision, rfl⟩
  dsimp only [Database.setStatus, Database.updateMessage]
  split
  · exact .error _
  · exact .ok ⟨rfl, _, rfl⟩

theorem blind_retryMessage (now : ℤ) (id : Id16) : Blind (retryMessage now id) := by
  rintro left _ ⟨revision, rfl⟩
  unfold retryMessage
  dsimp only
  split
  · exact ⟨rfl, _, rfl⟩
  · split <;> exact ⟨rfl, _, rfl⟩

theorem blind_cancelPendingMessage (id : Id16) : Blind (cancelPendingMessage id) := by
  apply blind_transaction
  rintro left _ ⟨revision, rfl⟩
  dsimp only
  split
  · exact .ok ⟨rfl, _, rfl⟩
  · exact .error _

theorem blind_advanceMessageStatus (id : Id16) (status : MessageStatus) :
    Blind (advanceMessageStatus id status) := by
  rintro left _ ⟨revision, rfl⟩
  unfold advanceMessageStatus
  dsimp only
  split
  · exact ⟨rfl, _, rfl⟩
  · split <;> exact ⟨rfl, _, rfl⟩

theorem blind_createGroup (now : ℤ) (groupId : Id16) : Blind (createGroup now groupId) := by
  intro left right halike
  exact ⟨rfl, alike_insertOrIgnoreConversation halike _⟩

theorem blind_addMember (groupId deviceId : Id16) (accountId : Id32) :
    Blind (addMember groupId deviceId accountId) := by
  rintro left _ ⟨revision, rfl⟩
  unfold addMember
  dsimp only
  split <;> exact ⟨rfl, _, rfl⟩

theorem blind_removeMember (now : ℤ) (groupId deviceId : Id16) :
    Blind (removeMember now groupId deviceId) := by
  rintro left _ ⟨revision, rfl⟩
  unfold removeMember
  dsimp only
  split <;> exact ⟨rfl, _, rfl⟩

theorem blind_ingestServerEvent (now : ℤ) (event : IncomingEvent) :
    Blind (ingestServerEvent now event) := by
  intro left right halike
  obtain ⟨hinserted, hafter⟩ := alikeOutcomes_insertOrIgnoreInbox halike (event.row now)
  exact ⟨congrArg Except.ok hinserted, hafter⟩

theorem alikeOutcomes_ingestLoop (events : List (IncomingEvent × ℤ)) (inserted : ℕ)
    {left right : Database} (halike : Alike left right) :
    AlikeOutcomes (ingestLoop events inserted left) (ingestLoop events inserted right) := by
  induction events generalizing inserted left right with
  | nil => exact ⟨rfl, halike⟩
  | cons entry events ih =>
      obtain ⟨event, now⟩ := entry
      obtain ⟨hinserted, hafter⟩ :=
        alikeOutcomes_insertOrIgnoreInbox halike (event.row now)
      simp only [ingestLoop, hinserted]
      exact ih _ hafter

theorem blind_ingestServerBatch (events : List (IncomingEvent × ℤ)) :
    Blind (ingestServerBatch events) := by
  intro left right halike
  unfold ingestServerBatch
  split
  · exact ⟨rfl, halike⟩
  · exact transaction_matching halike (.ok (alikeOutcomes_ingestLoop events 0 halike))

theorem blind_setSyncCursor (scope : Id16) (cursor : UInt64) :
    Blind (setSyncCursor scope cursor) := by
  rintro left _ ⟨revision, rfl⟩
  unfold setSyncCursor
  dsimp only
  split
  · exact ⟨rfl, _, rfl⟩
  · split <;> exact ⟨rfl, _, rfl⟩

theorem blind_cacheRelayDirectory (directory : CachedRelayDirectory) :
    Blind (cacheRelayDirectory directory) := by
  rintro left _ ⟨revision, rfl⟩
  unfold cacheRelayDirectory
  dsimp only
  split
  · exact ⟨rfl, _, rfl⟩
  · split <;> exact ⟨rfl, _, rfl⟩

theorem matching_reencrypt (aead : Aead) (active replacement : Key)
    (nonces : Id16 → Nonce) (rows : List MessageRow) {left right : Database}
    (halike : Alike left right) :
    Matching Alike (reencrypt aead active replacement nonces rows left)
      (reencrypt aead active replacement nonces rows right) := by
  induction rows generalizing left right with
  | nil => exact .ok halike
  | cons row rows ih =>
      simp only [reencrypt]
      cases decrypt aead active row.bodyCiphertext with
      | error failure => exact .error failure
      | ok plaintext =>
          cases hbody : encrypt aead replacement (nonces row.clientMessageId) plaintext with
          | error failure =>
              simp only [bind, Except.bind, hbody]
              exact .error failure
          | ok body =>
              simp only [bind, Except.bind, hbody]
              exact ih (alike_setBody halike _ _)

/-! ## Handles -/

/-- The handles have the same key and their databases are alike. -/
def AlikeCores (left right : MessengerCore) : Prop :=
  left.masterKey = right.masterKey ∧ Alike left.db right.db

theorem alikeCores_withDatabase {α : Type}
    {call : Database → Except CoreError α × Database} (hblind : Blind call)
    {left right : MessengerCore} (halike : AlikeCores left right) :
    (left.withDatabase call).1 = (right.withDatabase call).1 ∧
      AlikeCores (left.withDatabase call).2 (right.withDatabase call).2 := by
  obtain ⟨hanswer, hafter⟩ := hblind left.db right.db halike.2
  exact ⟨hanswer, halike.1, hafter⟩

theorem alikeCores_createMessage (aead : Aead) (id : Id16) (nonce : Nonce) (now : ℤ)
    (conversationId : Id16) (plaintext : String) {left right : MessengerCore}
    (halike : AlikeCores left right) :
    (createMessage aead id nonce now conversationId plaintext left).1 =
        (createMessage aead id nonce now conversationId plaintext right).1 ∧
      AlikeCores (createMessage aead id nonce now conversationId plaintext left).2
        (createMessage aead id nonce now conversationId plaintext right).2 := by
  unfold createMessage
  rw [halike.1]
  cases encrypt aead right.masterKey nonce (utf8 plaintext) with
  | error failure => exact ⟨rfl, halike⟩
  | ok encrypted =>
      exact alikeCores_withDatabase
        (blind_insertCreated id conversationId encrypted now) halike

/-- The transaction of `rotate_master_key`. -/
theorem blind_rotation (aead : Aead) (active replacement : Key) (nonces : Id16 → Nonce)
    (newVersion : UInt32) :
    Blind fun db => transaction db fun db =>
      if (newVersion.toNat : ℤ) ≠ db.keyVersion + 1 then
        .error .invalidTransition
      else (do
        let db ← reencrypt aead active replacement nonces db.messages.rows db
        pure ((), { db with keyVersion := newVersion.toNat })) := by
  apply blind_transaction
  intro left right halike
  have hrows := matching_reencrypt aead active replacement nonces left.messages.rows halike
  obtain ⟨revision, rfl⟩ := halike
  dsimp only
  split
  · exact .error _
  · refine matching_bind hrows ?_
    rintro first _ ⟨count, rfl⟩
    exact .ok ⟨rfl, _, rfl⟩

theorem alikeCores_rotateMasterKey (aead : Aead) (nonces : Id16 → Nonce) (newKey : Bytes)
    (newVersion : UInt32) {left right : MessengerCore} (halike : AlikeCores left right) :
    (rotateMasterKey aead nonces newKey newVersion left).1 =
        (rotateMasterKey aead nonces newKey newVersion right).1 ∧
      AlikeCores (rotateMasterKey aead nonces newKey newVersion left).2
        (rotateMasterKey aead nonces newKey newVersion right).2 := by
  obtain ⟨hkey, hdb⟩ := halike
  unfold rotateMasterKey
  cases FixedBytes.ofBytes? 32 newKey with
  | none => exact ⟨rfl, hkey, hdb⟩
  | some replacement =>
      obtain ⟨hanswer, hafter⟩ := blind_rotation aead right.masterKey replacement nonces
        newVersion left.db right.db hdb
      dsimp only at hanswer hafter ⊢
      rw [hkey]
      generalize transaction left.db _ = first at hanswer hafter ⊢
      generalize transaction right.db _ = second at hanswer hafter ⊢
      obtain ⟨answer, first⟩ := first
      obtain ⟨other, second⟩ := second
      obtain rfl : answer = other := hanswer
      cases answer with
      | error failure => exact ⟨rfl, rfl, hafter⟩
      | ok => exact ⟨rfl, rfl, hafter⟩

/-- Every call that writes answers the same on alike handles and leaves alike ones. -/
theorem alikeCores_write (aead : Aead) (operation : Operation)
    {left right : MessengerCore} (halike : AlikeCores left right) :
    writeAnswer aead left operation = writeAnswer aead right operation ∧
      AlikeCores (step aead left operation) (step aead right operation) := by
  have hcall {call : Database → Except CoreError Unit × Database} (hblind : Blind call) :
      Answer.done (left.withDatabase call).1 = Answer.done (right.withDatabase call).1 ∧
        AlikeCores (left.withDatabase call).2 (right.withDatabase call).2 := by
    obtain ⟨hanswer, hafter⟩ := alikeCores_withDatabase hblind halike
    exact ⟨congrArg Answer.done hanswer, hafter⟩
  cases operation with
  | createMessage id nonce now conversationId plaintext =>
      obtain ⟨hanswer, hafter⟩ := alikeCores_createMessage aead id nonce now
        conversationId plaintext halike
      exact ⟨congrArg Answer.created hanswer, hafter⟩
  | markUploadAccepted id => exact hcall (blind_markUploadAccepted id)
  | retryMessage now id => exact hcall (blind_retryMessage now id)
  | cancelPendingMessage id => exact hcall (blind_cancelPendingMessage id)
  | applyDeliveryReceipt id => exact hcall (blind_advanceMessageStatus id .delivered)
  | applyReadReceipt id => exact hcall (blind_advanceMessageStatus id .read)
  | createGroup now groupId => exact hcall (blind_createGroup now groupId)
  | addMember groupId deviceId accountId =>
      exact hcall (blind_addMember groupId deviceId accountId)
  | removeMember now groupId deviceId =>
      exact hcall (blind_removeMember now groupId deviceId)
  | ingestServerEvent now event =>
      obtain ⟨hanswer, hafter⟩ := alikeCores_withDatabase
        (blind_ingestServerEvent now event) halike
      exact ⟨congrArg Answer.ingested hanswer, hafter⟩
  | ingestServerBatch events =>
      obtain ⟨hanswer, hafter⟩ := alikeCores_withDatabase
        (blind_ingestServerBatch events) halike
      exact ⟨congrArg Answer.inserted hanswer, hafter⟩
  | setSyncCursor scope cursor => exact hcall (blind_setSyncCursor scope cursor)
  | blockAccount now accountId =>
      apply hcall
      rintro db _ ⟨revision, rfl⟩
      exact ⟨rfl, _, rfl⟩
  | unblockAccount accountId =>
      apply hcall
      rintro db _ ⟨revision, rfl⟩
      exact ⟨rfl, _, rfl⟩
  | setNetworkMode mode =>
      apply hcall
      rintro db _ ⟨revision, rfl⟩
      exact ⟨rfl, _, rfl⟩
  | cacheRelayDirectory directory => exact hcall (blind_cacheRelayDirectory directory)
  | rotateMasterKey nonces newKey newVersion =>
      obtain ⟨hanswer, hafter⟩ := alikeCores_rotateMasterKey aead nonces newKey newVersion
        halike
      exact ⟨congrArg Answer.done hanswer, hafter⟩
  | wipeLocalAccount =>
      apply hcall
      rintro db _ ⟨revision, rfl⟩
      exact ⟨rfl, _, rfl⟩

/-! ## Runs after a wipe -/

/-- An answer without the revision it may show. -/
def withoutRevision : Answer → Answer
  | .revision _ => .revision (.ok 0)
  | answer => answer

theorem alikeCores_respond (aead : Aead) (toLowercase : String → String)
    (left right : MessengerCore) (request : Request) (halike : AlikeCores left right) :
    withoutRevision (respond aead toLowercase left request).1 =
        withoutRevision (respond aead toLowercase right request).1 ∧
      AlikeCores (respond aead toLowercase left request).2
        (respond aead toLowercase right request).2 := by
  cases request with
  | write operation =>
      obtain ⟨hanswer, hafter⟩ := alikeCores_write aead operation halike
      exact ⟨congrArg withoutRevision hanswer, hafter⟩
  | _ =>
      obtain ⟨db, key⟩ := left
      obtain ⟨_, _⟩ := right
      obtain ⟨rfl, revision, rfl⟩ := halike
      exact ⟨rfl, rfl, _, rfl⟩

/-- All that a wipe leaves is the key, its version, the mode and the counter. -/
theorem alikeCores_wiped (aead : Aead) {first second : MessengerCore}
    (hkey : first.masterKey = second.masterKey)
    (hversion : first.db.keyVersion = second.db.keyVersion)
    (hmode : first.db.networkMode = second.db.networkMode) :
    AlikeCores (step aead first .wipeLocalAccount)
      (step aead second .wipeLocalAccount) := by
  refine ⟨hkey, second.db.revision + 1, ?_⟩
  simp only [step, perform, MessengerCore.withDatabase, wipeLocalAccount, hversion, hmode]

/-- Two stores with the same active key, key version and network mode answer alike to a
wipe and to every sequence of calls after it, whatever they held before, but for the
revision that `observe_conversation_changes` shows. -/
theorem wipe_erases_history (aead : Aead) (toLowercase : String → String)
    (first second : MessengerCore) (hkey : first.masterKey = second.masterKey)
    (hversion : first.db.keyVersion = second.db.keyVersion)
    (hmode : first.db.networkMode = second.db.networkMode) (requests : List Request) :
    (trace (respond aead toLowercase) first
        (.write .wipeLocalAccount :: requests)).map withoutRevision =
      (trace (respond aead toLowercase) second
        (.write .wipeLocalAccount :: requests)).map withoutRevision := by
  have hlater := trace_congr withoutRevision (alikeCores_respond aead toLowercase)
    (alikeCores_wiped aead hkey hversion hmode) requests
  exact congrArg (withoutRevision (.done (.ok ())) :: ·) hlater

/-- A store that held a message and an empty one. -/
theorem wiped_message_leaves_no_trace :
    (trace (respond Aead.transparent id) (step Aead.transparent (opened sampleKey)
        sampleCreate) [.write .wipeLocalAccount, .listConversations,
        .write sampleCreate, .getNetworkDiagnostics]).map withoutRevision =
      (trace (respond Aead.transparent id) (opened sampleKey)
        [.write .wipeLocalAccount, .listConversations, .write sampleCreate,
          .getNetworkDiagnostics]).map withoutRevision :=
  wipe_erases_history Aead.transparent id _ _ rfl (by decide +kernel) (by decide +kernel)
    [.listConversations, .write sampleCreate, .getNetworkDiagnostics]

end ResilientMessenger.Wipes
