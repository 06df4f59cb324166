import ResilientMessenger.Core.ByteCodec
import ResilientMessenger.Core.Table
import ResilientMessenger.Core.Transaction

/-!
# The server's tables

The PostgreSQL schema of the core API and the statements that insert into it.
A statement that violates a foreign key, a uniqueness or a check constraint
fails as a whole, which the backend reports as a database error.  The identity
sequence behind `event_cursor` is not part of any transaction: a value that was
taken stays taken.
-/

namespace ResilientMessenger.Schema

open ResilientMessenger.ByteCodec

inductive ApiError where
  | invalidCredentials
  | expired
  | replay
  | tokenReuse
  | conflict
  | unauthorized
  | cursorRegression
  | invalidInput
  | database
  deriving DecidableEq, Repr

/-- Timestamps, in microseconds. -/
abbrev Time := ℤ

def seconds (count : ℤ) : ℤ := count * 1000000

structure AccountRow where
  accountId : Id32
  rootPublicKey : Id32
  recoveryIdentifier : Option Id32
  recoveryBlob : Option Bytes
  deriving DecidableEq

structure DeviceRow where
  deviceId : Id16
  accountId : Id32
  devicePublicKey : Id32
  revokedAt : Option Time
  deriving DecidableEq

structure CertificateRow where
  deviceId : Id16
  certificateSignature : FixedBytes 64
  issuedAt : ℤ
  deriving DecidableEq

structure ChallengeRow where
  challengeId : Id16
  deviceId : Id16
  challenge : Id32
  expiresAt : Time
  consumedAt : Option Time
  deriving DecidableEq

structure AccessRow where
  tokenHash : Id32
  deviceId : Id16
  expiresAt : Time
  deriving DecidableEq

structure RefreshRow where
  tokenHash : Id32
  familyId : Id16
  deviceId : Id16
  replacedByHash : Option Id32
  expiresAt : Time
  usedAt : Option Time
  revokedAt : Option Time
  deriving DecidableEq

structure KeyPackageRow where
  packageId : Id16
  deviceId : Id16
  package : Bytes
  consumedAt : Option Time
  createdAt : Time
  deriving DecidableEq

structure GroupRow where
  groupId : Id16
  createdByDeviceId : Id16
  deriving DecidableEq

structure MemberRow where
  groupId : Id16
  deviceId : Id16
  accountId : Id32
  role : ℤ
  removedAt : Option Time
  deriving DecidableEq

def MemberRow.key (row : MemberRow) : Id16 × Id16 := (row.groupId, row.deviceId)

structure MembershipRow where
  correlationId : Id16
  groupId : Id16
  authorDeviceId : Id16
  operation : Bytes
  signature : FixedBytes 64
  appliedAt : Option Time
  deriving DecidableEq

structure EventRow where
  eventCursor : ℤ
  eventId : Id16
  groupId : Id16
  authorDeviceId : Id16
  clientMessageId : Id16
  correlationId : Option Id16
  eventKind : ℤ
  ciphertext : Bytes
  expiresAt : Time
  deriving DecidableEq

structure WelcomeRow where
  welcomeId : Id16
  targetDeviceId : Id16
  groupId : Id16
  welcome : Bytes
  expiresAt : Time
  consumedAt : Option Time
  deriving DecidableEq

structure GroupCursorRow where
  deviceId : Id16
  groupId : Id16
  cursor : ℤ
  deriving DecidableEq

def GroupCursorRow.key (row : GroupCursorRow) : Id16 × Id16 :=
  (row.deviceId, row.groupId)

structure ReceiptRow where
  eventId : Id16
  deviceId : Id16
  receiptType : ℤ
  deriving DecidableEq

structure Database where
  accounts : Table AccountRow.accountId
  devices : Table DeviceRow.deviceId
  deviceCertificates : Table CertificateRow.deviceId
  authChallenges : Table ChallengeRow.challengeId
  accessSessions : Table AccessRow.tokenHash
  refreshSessions : Table RefreshRow.tokenHash
  keyPackages : Table KeyPackageRow.packageId
  groups : Table GroupRow.groupId
  groupMembers : Table MemberRow.key
  membershipOperations : Table MembershipRow.correlationId
  groupEvents : Table EventRow.eventId
  welcomeMailbox : Table WelcomeRow.welcomeId
  deviceGroupCursors : Table GroupCursorRow.key
  messageReceipts : Table (id : ReceiptRow → ReceiptRow)
  eventSequence : ℤ
  deriving DecidableEq

namespace Database

/-- The database after the migration. -/
def migrated : Database where
  accounts := Table.empty
  devices := Table.empty
  deviceCertificates := Table.empty
  authChallenges := Table.empty
  accessSessions := Table.empty
  refreshSessions := Table.empty
  keyPackages := Table.empty
  groups := Table.empty
  groupMembers := Table.empty
  membershipOperations := Table.empty
  groupEvents := Table.empty
  welcomeMailbox := Table.empty
  deviceGroupCursors := Table.empty
  messageReceipts := Table.empty
  eventSequence := 0

def hasAccount (db : Database) (accountId : Id32) : Bool :=
  (db.accounts.lookup accountId).isSome

def hasDevice (db : Database) (deviceId : Id16) : Bool :=
  (db.devices.lookup deviceId).isSome

def hasGroup (db : Database) (groupId : Id16) : Bool :=
  (db.groups.lookup groupId).isSome

/-- `INSERT` into one table, with the constraints other than its primary key
gathered in `allowed`. -/
def insertInto {ρ κ : Type} {key : ρ → κ} [DecidableEq κ] (table : Table key)
    (allowed : Bool) (row : ρ) : Except ApiError (Table key) :=
  if allowed then
    match table.insert? row with
    | some inserted => .ok inserted
    | none => .error .database
  else .error .database

def insertAccountOrIgnore (db : Database) (row : AccountRow) :
    Except ApiError Database := do
  if db.hasAccount row.accountId then pure db
  else
    let accounts ← insertInto db.accounts
      (db.accounts.rows.all fun other =>
        other.rootPublicKey ≠ row.rootPublicKey) row
    pure { db with accounts }

def insertDevice (db : Database) (row : DeviceRow) : Except ApiError Database := do
  let devices ← insertInto db.devices
    (db.hasAccount row.accountId && db.devices.rows.all fun other =>
      other.accountId ≠ row.accountId ∨
        other.devicePublicKey ≠ row.devicePublicKey) row
  pure { db with devices }

def insertCertificate (db : Database) (row : CertificateRow) :
    Except ApiError Database := do
  let deviceCertificates ← insertInto db.deviceCertificates
    (db.hasDevice row.deviceId && decide (0 ≤ row.issuedAt)) row
  pure { db with deviceCertificates }

def insertChallenge (db : Database) (row : ChallengeRow) :
    Except ApiError Database := do
  let authChallenges ← insertInto db.authChallenges
    (db.hasDevice row.deviceId && db.authChallenges.rows.all fun other =>
      other.challenge ≠ row.challenge) row
  pure { db with authChallenges }

def insertAccess (db : Database) (row : AccessRow) : Except ApiError Database := do
  let accessSessions ← insertInto db.accessSessions
    (db.hasDevice row.deviceId) row
  pure { db with accessSessions }

def insertRefresh (db : Database) (row : RefreshRow) :
    Except ApiError Database := do
  let refreshSessions ← insertInto db.refreshSessions
    (db.hasDevice row.deviceId) row
  pure { db with refreshSessions }

def insertGroup (db : Database) (row : GroupRow) : Except ApiError Database := do
  let groups ← insertInto db.groups (db.hasDevice row.createdByDeviceId) row
  pure { db with groups }

def memberAllowed (db : Database) (row : MemberRow) : Bool :=
  db.hasGroup row.groupId && db.hasDevice row.deviceId &&
    db.hasAccount row.accountId && decide (0 ≤ row.role ∧ row.role ≤ 2)

def insertMember (db : Database) (row : MemberRow) : Except ApiError Database := do
  let groupMembers ← insertInto db.groupMembers (db.memberAllowed row) row
  pure { db with groupMembers }

/-- `INSERT … ON CONFLICT(group_id,device_id) DO UPDATE`. -/
def upsertMember (db : Database) (row : MemberRow) : Except ApiError Database :=
  if db.memberAllowed row then
    .ok { db with
      groupMembers := db.groupMembers.upsert row
        (fun stored =>
          { stored with
            accountId := row.accountId
            role := row.role
            removedAt := none })
        fun _ => rfl }
  else .error .database

def insertMembershipOperation (db : Database) (row : MembershipRow) :
    Except ApiError Database := do
  let membershipOperations ← insertInto db.membershipOperations
    (db.hasGroup row.groupId && db.hasDevice row.authorDeviceId) row
  pure { db with membershipOperations }

def insertEvent (db : Database) (row : EventRow) : Except ApiError Database := do
  let groupEvents ← insertInto db.groupEvents
    (db.hasGroup row.groupId && db.hasDevice row.authorDeviceId &&
      db.groupEvents.rows.all fun other =>
        other.eventCursor ≠ row.eventCursor ∧
          (other.authorDeviceId ≠ row.authorDeviceId ∨
            other.clientMessageId ≠ row.clientMessageId)) row
  pure { db with groupEvents }

/-- `INSERT … ON CONFLICT(welcome_id) DO NOTHING`. -/
def insertWelcomeOrIgnore (db : Database) (row : WelcomeRow) :
    Except ApiError Database := do
  if (db.welcomeMailbox.lookup row.welcomeId).isSome then pure db
  else
    let welcomeMailbox ← insertInto db.welcomeMailbox
      (db.hasDevice row.targetDeviceId && db.hasGroup row.groupId) row
    pure { db with welcomeMailbox }

/-! ## Successful insertions -/

theorem insertInto_eq_ok {ρ κ : Type} {key : ρ → κ} [DecidableEq κ]
    {table result : Table key} {allowed : Bool} {row : ρ} :
    insertInto table allowed row = .ok result ↔
      allowed = true ∧ table.insert? row = some result := by
  unfold insertInto
  cases allowed with
  | false => simp
  | true => cases hinsert : table.insert? row <;> simp

theorem insertEvent_eq_ok {db result : Database} {row : EventRow}
    (hinsert : db.insertEvent row = .ok result) :
    ∃ groupEvents, result = { db with groupEvents } ∧
      groupEvents.rows = db.groupEvents.rows ++ [row] ∧
      row.eventCursor ∉ db.groupEvents.rows.map EventRow.eventCursor := by
  simp only [insertEvent, Transaction.bind_eq_ok, Transaction.pure_eq_ok,
    insertInto_eq_ok] at hinsert
  obtain ⟨groupEvents, ⟨hallowed, hrows⟩, hresult⟩ := hinsert
  refine ⟨groupEvents, hresult.symm, (Table.insert?_eq_some_iff.mp hrows).2, ?_⟩
  intro htaken
  obtain ⟨other, hother, hcursor⟩ := List.mem_map.mp htaken
  have hfree := List.all_eq_true.mp (Bool.and_eq_true_iff.mp hallowed).2 other hother
  exact (of_decide_eq_true hfree).1 hcursor

end Database

end ResilientMessenger.Schema
