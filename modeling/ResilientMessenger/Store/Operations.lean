import ResilientMessenger.Store.LocalDatabase
import ResilientMessenger.Core.Transaction

/-!
# Operations of the local store

Every public call of `MessengerCore` that can change the database or the master
key.  The system clock and the random generator are arguments.  A call returns
its result together with the state after it: a `rusqlite` transaction that is
dropped before its commit rolls back, which `transaction` states.
-/

namespace ResilientMessenger.StoreOperations

open ResilientMessenger.ByteCodec
open ResilientMessenger.LocalDatabase
open ResilientMessenger.Transaction

def messageAad : Bytes := ascii "resilient/local-message/v1"

/-- The handle the native shell holds: an open database and the active key. -/
structure MessengerCore where
  db : Database
  masterKey : Key
  deriving DecidableEq

/-- A call on the database alone, made through the handle. -/
def MessengerCore.withDatabase {α : Type} (core : MessengerCore)
    (call : Database → Except CoreError α × Database) :
    Except CoreError α × MessengerCore :=
  let (result, db) := call core.db
  (result, { core with db })

/-! ## Message bodies -/

def encrypt (aead : Aead) (key : Key) (nonce : Nonce) (plaintext : Bytes) :
    Except CoreError Bytes :=
  match aead.encrypt key nonce messageAad plaintext with
  | some ciphertext => .ok (nonce.toList ++ ciphertext)
  | none => .error .authentication

def decrypt (aead : Aead) (key : Key) (blob : Bytes) : Except CoreError Bytes :=
  if blob.length < 40 then .error .authentication
  else
    match FixedBytes.ofBytes? 24 (blob.take 24) with
    | none => .error .authentication
    | some nonce =>
        match aead.decrypt key nonce messageAad (blob.drop 24) with
        | some plaintext => .ok plaintext
        | none => .error .authentication

/-! ## Sending and acknowledging -/

/-- The transaction of `create_message`, entered once the body is encrypted. -/
def insertCreated (id conversationId : Id16) (encrypted : Bytes) (now : ℤ)
    (db : Database) : Except CoreError Id16 × Database :=
  transaction db fun db => do
    let db := db.insertOrIgnoreConversation ⟨conversationId, now⟩
    let db ← db.insertMessage
      { clientMessageId := id
        conversationId
        bodyCiphertext := encrypted
        status := MessageStatus.readyToUpload.code
        createdAtMs := now }
    let db ← db.insertOutbox
      { clientMessageId := id, nextAttemptAtMs := now, attempts := 0 }
    let db :=
      { db with
        conversations := db.conversations.modify conversationId (fun _ => true)
          (fun row => { row with updatedAtMs := now }) fun _ => rfl }
    pure (id, db)

def createMessage (aead : Aead) (id : Id16) (nonce : Nonce) (now : ℤ)
    (conversationId : Id16) (plaintext : String) (core : MessengerCore) :
    Except CoreError Id16 × MessengerCore :=
  match encrypt aead core.masterKey nonce (utf8 plaintext) with
  | .error failure => (.error failure, core)
  | .ok encrypted =>
      core.withDatabase (insertCreated id conversationId encrypted now)

/-- The statuses `mark_upload_accepted` moves to `ServerAccepted`. -/
def acceptable (row : MessageRow) : Bool :=
  row.status = MessageStatus.readyToUpload.code ∨
    row.status = MessageStatus.uploading.code ∨
      row.status = MessageStatus.retryScheduled.code

def markUploadAccepted (id : Id16) (db : Database) :
    Except CoreError Unit × Database :=
  transaction db fun db =>
    let changed := db.messages.affects id acceptable
    let db := db.setStatus id acceptable .serverAccepted
    let already := (db.messages.lookup id).map MessageRow.status
    if !changed && already ≠ some MessageStatus.serverAccepted.code then
      .error (if already.isSome then .invalidTransition else .notFound)
    else
      .ok ((), { db with outbox := db.outbox.erase id })

/-- The two updates run outside a transaction.  Reading `attempts` as a `u32`
fails on a larger stored value. -/
def retryMessage (now : ℤ) (id : Id16) (db : Database) :
    Except CoreError Unit × Database :=
  match db.outbox.lookup id with
  | none => (.error .notFound, db)
  | some queued =>
      if 2 ^ 32 ≤ queued.attempts then (.error .database, db)
      else
        let delayMs : ℤ := 1000 * 2 ^ min queued.attempts 10
        let db :=
          { db with
            outbox := db.outbox.modify id (fun _ => true)
              (fun row =>
                { row with
                  attempts := row.attempts + 1
                  nextAttemptAtMs := now + delayMs }) fun _ => rfl }
        (.ok (), db.setStatus id (fun _ => true) .retryScheduled)

/-- The statuses `cancel_pending_message` moves to `Cancelled`. -/
def cancellable (row : MessageRow) : Bool :=
  row.status = MessageStatus.queued.code ∨
    row.status = MessageStatus.readyToUpload.code ∨
      row.status = MessageStatus.retryScheduled.code

def cancelPendingMessage (id : Id16) (db : Database) :
    Except CoreError Unit × Database :=
  transaction db fun db =>
    if db.messages.affects id cancellable then
      let db := db.setStatus id cancellable .cancelled
      .ok ((), { db with outbox := db.outbox.erase id })
    else
      .error .invalidTransition

/-- The guard compares the numeric status codes. -/
def advanceMessageStatus (id : Id16) (status : MessageStatus) (db : Database) :
    Except CoreError Unit × Database :=
  let behind := fun row : MessageRow => decide (row.status < status.code)
  if db.messages.affects id behind then
    (.ok (), db.setStatus id behind status)
  else if (db.messages.lookup id).isSome then
    (.ok (), db)
  else
    (.error .notFound, db)

def applyDeliveryReceipt (id : Id16) : Database → Except CoreError Unit × Database :=
  advanceMessageStatus id .delivered

def applyReadReceipt (id : Id16) : Database → Except CoreError Unit × Database :=
  advanceMessageStatus id .read

/-! ## Groups -/

def createGroup (now : ℤ) (groupId : Id16) (db : Database) :
    Except CoreError Unit × Database :=
  (.ok (), db.insertOrIgnoreConversation ⟨groupId, now⟩)

/-- The upsert fires `members_change_insert` or `members_change_update`, so the
counter advances either way.  The foreign key needs the conversation. -/
def addMember (groupId deviceId : Id16) (accountId : Id32) (db : Database) :
    Except CoreError Unit × Database :=
  if db.conversations.lookup groupId = none then (.error .database, db)
  else
    (.ok (),
      { db with
        conversationMembers := db.conversationMembers.upsert
          ⟨groupId, deviceId, accountId, none⟩
          (fun row => { row with accountId, removedAtMs := none }) fun _ => rfl
        revision := db.revision + 1 })

def removeMember (now : ℤ) (groupId deviceId : Id16) (db : Database) :
    Except CoreError Unit × Database :=
  let active := fun row : MemberRow => row.removedAtMs.isNone
  if db.conversationMembers.affects (groupId, deviceId) active then
    (.ok (),
      { db with
        conversationMembers := db.conversationMembers.modify (groupId, deviceId)
          active (fun row => { row with removedAtMs := some now }) fun _ => rfl
        revision := db.revision + 1 })
  else
    (.error .notFound, db)

/-! ## Incoming events and cursors -/

structure IncomingEvent where
  eventId : Id16
  conversationId : Id16
  encryptedEvent : Bytes
  deriving DecidableEq

def IncomingEvent.row (event : IncomingEvent) (now : ℤ) : InboxRow where
  eventId := event.eventId
  conversationId := event.conversationId
  eventCiphertext := event.encryptedEvent
  receivedAtMs := now

def ingestServerEvent (now : ℤ) (event : IncomingEvent) (db : Database) :
    Except CoreError Bool × Database :=
  let (inserted, db) := db.insertOrIgnoreInbox (event.row now)
  (.ok inserted, db)

/-- The loop of `ingest_server_batch`; each event reads the clock. -/
def ingestLoop : List (IncomingEvent × ℤ) → ℕ → Database → ℕ × Database
  | [], inserted, db => (inserted, db)
  | (event, now) :: events, inserted, db =>
      let (isNew, db) := db.insertOrIgnoreInbox (event.row now)
      ingestLoop events (if isNew then inserted + 1 else inserted) db

def ingestServerBatch (events : List (IncomingEvent × ℤ)) (db : Database) :
    Except CoreError ℕ × Database :=
  if 50 < events.length then (.error .invalidTransition, db)
  else transaction db fun db => .ok (ingestLoop events 0 db)

/-- `value as i64` on a `u64`. -/
def asI64 (value : UInt64) : ℤ :=
  if value.toNat < 2 ^ 63 then value.toNat else (value.toNat : ℤ) - 2 ^ 64

/-- `value as u64` on an `i64`. -/
def asU64 (value : ℤ) : ℕ := (value % 2 ^ 64).toNat

/-- The column's `CHECK` rejects the negative images of large cursors. -/
def setSyncCursor (scope : Id16) (cursor : UInt64) (db : Database) :
    Except CoreError Unit × Database :=
  let current := (db.syncCursors.lookup scope).map CursorRow.cursor
  if current.any fun value => cursor.toNat < asU64 value then
    (.error .invalidTransition, db)
  else if asI64 cursor < 0 then (.error .database, db)
  else
    (.ok (),
      { db with
        syncCursors := db.syncCursors.upsert ⟨scope, asI64 cursor⟩
          (fun row => { row with cursor := asI64 cursor }) fun _ => rfl })

/-! ## Account settings -/

def blockAccount (now : ℤ) (accountId : Id32) (db : Database) :
    Except CoreError Unit × Database :=
  (.ok (),
    { db with
      blockedAccounts := db.blockedAccounts.insertOrIgnore ⟨accountId, now⟩ })

def unblockAccount (accountId : Id32) (db : Database) :
    Except CoreError Unit × Database :=
  (.ok (), { db with blockedAccounts := db.blockedAccounts.erase accountId })

def setNetworkMode (mode : NetworkMode) (db : Database) :
    Except CoreError Unit × Database :=
  (.ok (), { db with networkMode := mode.code })

structure CachedRelayDirectory where
  version : UInt64
  signedDirectory : Bytes
  expiresAtMs : ℤ
  deriving DecidableEq

def cacheRelayDirectory (directory : CachedRelayDirectory) (db : Database) :
    Except CoreError Unit × Database :=
  let current := (db.relayDirectoryCache.rows.map DirectoryRow.version).max?
  if current.any fun value => directory.version.toNat < asU64 value then
    (.error .invalidTransition, db)
  else if asI64 directory.version < 0 then (.error .database, db)
  else
    (.ok (),
      { db with
        relayDirectoryCache := db.relayDirectoryCache.upsert
          ⟨asI64 directory.version, directory.signedDirectory,
            directory.expiresAtMs⟩
          (fun row =>
            { row with
              signedDirectory := directory.signedDirectory
              expiresAtMs := directory.expiresAtMs }) fun _ => rfl })

/-! ## Key rotation and wipe -/

/-- The loop of `rotate_master_key` over the selected rows.  Every row is
encrypted with a nonce of its own. -/
def reencrypt (aead : Aead) (active replacement : Key) (nonces : Id16 → Nonce) :
    List MessageRow → Database → Except CoreError Database
  | [], db => .ok db
  | row :: rows, db => do
      let plaintext ← decrypt aead active row.bodyCiphertext
      let reencrypted ← encrypt aead replacement (nonces row.clientMessageId)
        plaintext
      reencrypt aead active replacement nonces rows
        (db.setBody row.clientMessageId reencrypted)

def rotateMasterKey (aead : Aead) (nonces : Id16 → Nonce) (newKey : Bytes)
    (newVersion : UInt32) (core : MessengerCore) :
    Except CoreError Unit × MessengerCore :=
  match FixedBytes.ofBytes? 32 newKey with
  | none => (.error .invalidMasterKey, core)
  | some replacement =>
      let rotated := transaction core.db fun db =>
        if (newVersion.toNat : ℤ) ≠ db.keyVersion + 1 then
          .error .invalidTransition
        else do
          let db ← reencrypt aead core.masterKey replacement nonces
            db.messages.rows db
          pure ((), { db with keyVersion := newVersion.toNat })
      match rotated with
      | (.ok (), db) => (.ok (), { db, masterKey := replacement })
      | (.error failure, db) => (.error failure, { core with db })

/-- No trigger fires on a deletion, so the counter advances once. -/
def wipeLocalAccount (db : Database) : Except CoreError Unit × Database :=
  (.ok (),
    { db with
      outbox := Table.empty
      inbox := Table.empty
      messages := Table.empty
      conversationMembers := Table.empty
      conversations := Table.empty
      syncCursors := Table.empty
      blockedAccounts := Table.empty
      relayDirectoryCache := Table.empty
      revision := db.revision + 1 })

/-! ## Runs -/

/-- The public calls that write. -/
inductive Operation where
  | createMessage (id : Id16) (nonce : Nonce) (now : ℤ) (conversationId : Id16)
      (plaintext : String)
  | markUploadAccepted (id : Id16)
  | retryMessage (now : ℤ) (id : Id16)
  | cancelPendingMessage (id : Id16)
  | applyDeliveryReceipt (id : Id16)
  | applyReadReceipt (id : Id16)
  | createGroup (now : ℤ) (groupId : Id16)
  | addMember (groupId deviceId : Id16) (accountId : Id32)
  | removeMember (now : ℤ) (groupId deviceId : Id16)
  | ingestServerEvent (now : ℤ) (event : IncomingEvent)
  | ingestServerBatch (events : List (IncomingEvent × ℤ))
  | setSyncCursor (scope : Id16) (cursor : UInt64)
  | blockAccount (now : ℤ) (accountId : Id32)
  | unblockAccount (accountId : Id32)
  | setNetworkMode (mode : NetworkMode)
  | cacheRelayDirectory (directory : CachedRelayDirectory)
  | rotateMasterKey (nonces : Id16 → Nonce) (newKey : Bytes) (newVersion : UInt32)
  | wipeLocalAccount

/-- Forget the value of a successful call. -/
def discard {α σ : Type} (outcome : Except CoreError α × σ) :
    Except CoreError Unit × σ :=
  (outcome.1.map fun _ => (), outcome.2)

/-- One call, with whether it returned `Ok`. -/
def perform (aead : Aead) (core : MessengerCore) :
    Operation → Except CoreError Unit × MessengerCore
  | .createMessage id nonce now conversationId plaintext =>
      discard (createMessage aead id nonce now conversationId plaintext core)
  | .markUploadAccepted id => core.withDatabase (markUploadAccepted id)
  | .retryMessage now id => core.withDatabase (retryMessage now id)
  | .cancelPendingMessage id => core.withDatabase (cancelPendingMessage id)
  | .applyDeliveryReceipt id => core.withDatabase (applyDeliveryReceipt id)
  | .applyReadReceipt id => core.withDatabase (applyReadReceipt id)
  | .createGroup now groupId => core.withDatabase (createGroup now groupId)
  | .addMember groupId deviceId accountId =>
      core.withDatabase (addMember groupId deviceId accountId)
  | .removeMember now groupId deviceId =>
      core.withDatabase (removeMember now groupId deviceId)
  | .ingestServerEvent now event =>
      discard (core.withDatabase (ingestServerEvent now event))
  | .ingestServerBatch events =>
      discard (core.withDatabase (ingestServerBatch events))
  | .setSyncCursor scope cursor => core.withDatabase (setSyncCursor scope cursor)
  | .blockAccount now accountId => core.withDatabase (blockAccount now accountId)
  | .unblockAccount accountId => core.withDatabase (unblockAccount accountId)
  | .setNetworkMode mode => core.withDatabase (setNetworkMode mode)
  | .cacheRelayDirectory directory =>
      core.withDatabase (cacheRelayDirectory directory)
  | .rotateMasterKey nonces newKey newVersion =>
      rotateMasterKey aead nonces newKey newVersion core
  | .wipeLocalAccount => core.withDatabase wipeLocalAccount

/-- The state after one call. -/
def step (aead : Aead) (core : MessengerCore) (operation : Operation) :
    MessengerCore :=
  (perform aead core operation).2

end ResilientMessenger.StoreOperations
