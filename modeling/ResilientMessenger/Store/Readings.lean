import ResilientMessenger.Store.PendingUploads

/-!
# The calls that read

The calls of `MessengerCore` that change nothing, next to `list_messages`,
`get_pending_uploads` and `local_search`, and all its calls together: a request, what
it answers and the state it leaves.
-/

namespace ResilientMessenger.Readings

open ResilientMessenger.ByteCodec
open ResilientMessenger.LocalDatabase
open ResilientMessenger.StoreOperations
open ResilientMessenger.Durability (LocalMessage listMessages)
open ResilientMessenger.PendingUploads (PendingUpload getPendingUploads)
open ResilientMessenger.Rotations (localSearch)

/-- `ORDER BY updated_at_ms DESC,conversation_id`; blobs of equal length compare like
the numbers they denote. -/
def shownBefore (left right : ConversationRow) : Prop :=
  right.updatedAtMs < left.updatedAtMs ∨
    left.updatedAtMs = right.updatedAtMs ∧
      ofBigEndian left.conversationId.toList ≤ ofBigEndian right.conversationId.toList

instance : DecidableRel shownBefore := fun left right =>
  inferInstanceAs (Decidable (right.updatedAtMs < left.updatedAtMs ∨
    left.updatedAtMs = right.updatedAtMs ∧
      ofBigEndian left.conversationId.toList ≤
        ofBigEndian right.conversationId.toList))

/-- A row of the table is already a `ConversationSummary`. -/
def listConversations (db : Database) : Except CoreError (List ConversationRow) :=
  .ok (db.conversations.rows.insertionSort shownBefore)

/-- The counter is read as an `i64`, which fails on a larger stored value. -/
def observeConversationChanges (afterRevision : UInt64) (db : Database) :
    Except CoreError UInt64 :=
  if 2 ^ 63 ≤ db.revision then .error .database
  else
    let revision := UInt64.ofNat (asU64 db.revision)
    .ok (if revision < afterRevision then afterRevision else revision)

structure NetworkDiagnostics where
  mode : NetworkMode
  pendingUploads : UInt64
  lastCursor : UInt64
  deriving DecidableEq

def getNetworkDiagnostics (db : Database) : Except CoreError NetworkDiagnostics := do
  let lastCursor := ((db.syncCursors.rows.map CursorRow.cursor).max?).getD 0
  let mode ← match db.networkMode with
    | 0 => .ok .normal
    | 1 => .ok .limited
    | 2 => .ok .survival
    | _ => .error .authentication
  pure
    { mode
      pendingUploads := UInt64.ofNat db.outbox.rows.length
      lastCursor := UInt64.ofNat (asU64 lastCursor) }

/-- `ORDER BY version DESC LIMIT 1`. -/
def newestDirectory (db : Database) : Option DirectoryRow :=
  (db.relayDirectoryCache.rows.insertionSort
    fun left right => right.version ≤ left.version).head?

def lastRelayDirectory (db : Database) :
    Except CoreError (Option CachedRelayDirectory) :=
  .ok ((newestDirectory db).map fun row =>
    { version := UInt64.ofNat (asU64 row.version)
      signedDirectory := row.signedDirectory
      expiresAtMs := row.expiresAtMs })

/-- The version `migrate` leaves in every file it accepts. -/
def schemaVersion : Except CoreError ℤ := .ok 2

/-! ## All calls -/

inductive Request where
  | write (operation : Operation)
  | listMessages (conversationId : Id16)
  | listConversations
  | observeConversationChanges (afterRevision : UInt64)
  | getPendingUploads (now : ℤ) (limit : ℕ)
  | getNetworkDiagnostics
  | lastRelayDirectory
  | localSearch (query : String)
  | schemaVersion

inductive Answer where
  | done (result : Except CoreError Unit)
  | created (result : Except CoreError Id16)
  | ingested (result : Except CoreError Bool)
  | inserted (result : Except CoreError ℕ)
  | messages (result : Except CoreError (List LocalMessage))
  | conversations (result : Except CoreError (List ConversationRow))
  | revision (result : Except CoreError UInt64)
  | pending (result : Except CoreError (List PendingUpload))
  | diagnostics (result : Except CoreError NetworkDiagnostics)
  | directory (result : Except CoreError (Option CachedRelayDirectory))
  | version (result : Except CoreError ℤ)

/-- What a call that writes returns. -/
def writeAnswer (aead : Aead) (core : MessengerCore) : Operation → Answer
  | .createMessage id nonce now conversationId plaintext =>
      .created (createMessage aead id nonce now conversationId plaintext core).1
  | .ingestServerEvent now event => .ingested (ingestServerEvent now event core.db).1
  | .ingestServerBatch events => .inserted (ingestServerBatch events core.db).1
  | operation => .done (perform aead core operation).1

/-- One call: its answer and the state it leaves. -/
def respond (aead : Aead) (toLowercase : String → String) (core : MessengerCore) :
    Request → Answer × MessengerCore
  | .write operation => (writeAnswer aead core operation, step aead core operation)
  | .listMessages conversationId =>
      (.messages (listMessages aead conversationId core), core)
  | .listConversations => (.conversations (listConversations core.db), core)
  | .observeConversationChanges afterRevision =>
      (.revision (observeConversationChanges afterRevision core.db), core)
  | .getPendingUploads now limit => (.pending (getPendingUploads now limit core.db), core)
  | .getNetworkDiagnostics => (.diagnostics (getNetworkDiagnostics core.db), core)
  | .lastRelayDirectory => (.directory (lastRelayDirectory core.db), core)
  | .localSearch query => (.messages (localSearch aead toLowercase query core), core)
  | .schemaVersion => (.version schemaVersion, core)

end ResilientMessenger.Readings
