import ResilientMessenger.Core.Table
import ResilientMessenger.Core.Aead

/-!
# The local database

The tables of the per-account SQLite store, with the statements its operations
issue.  `migrate` installs a trigger on every table the user interface
observes, so the statements below that insert or update such a row also advance
`change_counter`.  The singleton tables hold one row each and are plain fields.
-/

namespace ResilientMessenger.LocalDatabase

open ResilientMessenger.ByteCodec

inductive CoreError where
  | database
  | authentication
  | invalidTransition
  | notFound
  | invalidMasterKey
  deriving DecidableEq, Repr

inductive MessageStatus where
  | draft
  | queued
  | encrypting
  | readyToUpload
  | uploading
  | serverAccepted
  | delivered
  | read
  | retryScheduled
  | failedPermanent
  | cancelled
  deriving DecidableEq, Repr

/-- The discriminant stored in the `status` column. -/
def MessageStatus.code : MessageStatus → ℤ
  | draft => 0
  | queued => 1
  | encrypting => 2
  | readyToUpload => 3
  | uploading => 4
  | serverAccepted => 5
  | delivered => 6
  | read => 7
  | retryScheduled => 8
  | failedPermanent => 9
  | cancelled => 10

inductive NetworkMode where
  | normal
  | limited
  | survival
  deriving DecidableEq, Repr

def NetworkMode.code : NetworkMode → ℤ
  | normal => 0
  | limited => 1
  | survival => 2

structure ConversationRow where
  conversationId : Id16
  updatedAtMs : ℤ
  deriving DecidableEq

structure MessageRow where
  clientMessageId : Id16
  conversationId : Id16
  bodyCiphertext : Bytes
  status : ℤ
  createdAtMs : ℤ
  deriving DecidableEq

structure OutboxRow where
  clientMessageId : Id16
  nextAttemptAtMs : ℤ
  attempts : ℕ
  deriving DecidableEq

structure InboxRow where
  eventId : Id16
  conversationId : Id16
  eventCiphertext : Bytes
  receivedAtMs : ℤ
  deriving DecidableEq

structure CursorRow where
  scope : Id16
  cursor : ℤ
  deriving DecidableEq

structure MemberRow where
  conversationId : Id16
  deviceId : Id16
  accountId : Id32
  removedAtMs : Option ℤ
  deriving DecidableEq

def MemberRow.key (row : MemberRow) : Id16 × Id16 :=
  (row.conversationId, row.deviceId)

structure BlockedRow where
  accountId : Id32
  blockedAtMs : ℤ
  deriving DecidableEq

structure DirectoryRow where
  version : ℤ
  signedDirectory : Bytes
  expiresAtMs : ℤ
  deriving DecidableEq

structure Database where
  conversations : Table ConversationRow.conversationId
  messages : Table MessageRow.clientMessageId
  outbox : Table OutboxRow.clientMessageId
  inbox : Table InboxRow.eventId
  syncCursors : Table CursorRow.scope
  conversationMembers : Table MemberRow.key
  blockedAccounts : Table BlockedRow.accountId
  relayDirectoryCache : Table DirectoryRow.version
  networkMode : ℤ
  keyVersion : ℤ
  revision : ℤ
  deriving DecidableEq

namespace Database

/-- The database `migrate` creates in an empty file. -/
def initial : Database where
  conversations := Table.empty
  messages := Table.empty
  outbox := Table.empty
  inbox := Table.empty
  syncCursors := Table.empty
  conversationMembers := Table.empty
  blockedAccounts := Table.empty
  relayDirectoryCache := Table.empty
  networkMode := 0
  keyVersion := 1
  revision := 0

/-- `INSERT OR IGNORE INTO conversations`, with trigger
`conversations_change_insert`. -/
def insertOrIgnoreConversation (db : Database) (row : ConversationRow) :
    Database :=
  match db.conversations.insert? row with
  | some conversations =>
      { db with conversations, revision := db.revision + 1 }
  | none => db

/-- `INSERT INTO messages`, with its foreign key on `conversations` and trigger
`messages_change_insert`. -/
def insertMessage (db : Database) (row : MessageRow) :
    Except CoreError Database :=
  if db.conversations.lookup row.conversationId = none then .error .database
  else match db.messages.insert? row with
    | some messages => .ok { db with messages, revision := db.revision + 1 }
    | none => .error .database

/-- `INSERT INTO outbox`, with its foreign key on `messages`. -/
def insertOutbox (db : Database) (row : OutboxRow) :
    Except CoreError Database :=
  if db.messages.lookup row.clientMessageId = none then .error .database
  else match db.outbox.insert? row with
    | some outbox => .ok { db with outbox }
    | none => .error .database

/-- `UPDATE messages … WHERE client_message_id = id AND cond`, with trigger
`messages_change_update` firing once for the row it selects. -/
def updateMessage (db : Database) (id : Id16) (cond : MessageRow → Bool)
    (f : MessageRow → MessageRow)
    (hkey : ∀ row, (f row).clientMessageId = row.clientMessageId) : Database :=
  { db with
    messages := db.messages.modify id cond f hkey
    revision := db.revision + if db.messages.affects id cond then 1 else 0 }

def setStatus (db : Database) (id : Id16) (cond : MessageRow → Bool)
    (status : MessageStatus) : Database :=
  db.updateMessage id cond (fun row => { row with status := status.code })
    fun _ => rfl

def setBody (db : Database) (id : Id16) (body : Bytes) : Database :=
  db.updateMessage id (fun _ => true)
    (fun row => { row with bodyCiphertext := body }) fun _ => rfl

/-- `INSERT OR IGNORE INTO inbox`, with trigger `inbox_change_insert`; the
Boolean is whether a row was inserted. -/
def insertOrIgnoreInbox (db : Database) (row : InboxRow) : Bool × Database :=
  match db.inbox.insert? row with
  | some inbox => (true, { db with inbox, revision := db.revision + 1 })
  | none => (false, db)

end Database

end ResilientMessenger.LocalDatabase
