import ResilientMessenger.Core.Paging
import ResilientMessenger.Core.Transaction
import ResilientMessenger.Identity.Payloads
import ResilientMessenger.Server.Schema

/-!
# The delivery backend

The calls of `Backend` that a request frame can reach.  A request reads the
clock once and takes its random values from `Moment`.
-/

namespace ResilientMessenger.Backend

open ResilientMessenger.ByteCodec
open ResilientMessenger.Identity
open ResilientMessenger.Schema
open ResilientMessenger.Transaction

def accessTtlSeconds : ℤ := 15 * 60
def refreshTtlSeconds : ℤ := 30 * 24 * 60 * 60
def challengeTtlSeconds : ℤ := 120
def eventTtlSeconds : ℤ := 7 * 24 * 60 * 60
def maxSyncBatch : ℤ := 50
def maxKeyPackageSize : ℕ := 64 * 1024
def maxRecoveryBlobSize : ℕ := 256 * 1024
def eventKindMlsCommit : ℤ := 2

/-- The clock and the random generator during one request. -/
structure Moment where
  now : Time
  randomId : Id16
  firstRandom : Id32
  secondRandom : Id32

structure Challenge where
  challengeId : Id16
  challenge : Id32

structure SessionTokens where
  accessToken : Id32
  refreshToken : Id32

structure UploadedEvent where
  eventId : Id16
  groupId : Id16
  authorDeviceId : Id16
  clientMessageId : Id16
  eventKind : ℤ
  ciphertext : Bytes
  correlationId : Option Id16
  deriving DecidableEq

structure UploadAccepted where
  cursor : ℤ
  duplicate : Bool
  deriving DecidableEq

structure SyncEvent where
  cursor : ℤ
  eventId : Id16
  eventKind : ℤ
  ciphertext : Bytes
  deriving DecidableEq

structure MembershipOperation where
  correlationId : Id16
  groupId : Id16
  authorDeviceId : Id16
  targetDeviceId : Id16
  role : ℤ
  remove : Bool
  signature : FixedBytes 64

/-! ## Sessions -/

def tokenHash (crypto : Crypto) (domain : String) (token : Id32) : Id32 :=
  crypto.sha256 (ascii "resilient/session/v1" ++ ascii domain ++ token.toList)

def activeDevice (db : Database) (deviceId : Id16) : Option DeviceRow :=
  (db.devices.lookup deviceId).filter fun device => device.revokedAt.isNone

def authenticateAccess (crypto : Crypto) (now : Time) (accessToken : Id32)
    (db : Database) : Except ApiError Id16 :=
  match db.accessSessions.lookup (tokenHash crypto "access" accessToken) with
  | none => .error .invalidCredentials
  | some session =>
      if now < session.expiresAt ∧ (activeDevice db session.deviceId).isSome then
        .ok session.deviceId
      else .error .invalidCredentials

def deviceAccountId (deviceId : Id16) (db : Database) : Except ApiError Id32 :=
  match activeDevice db deviceId with
  | none => .error .unauthorized
  | some device => .ok device.accountId

def registerAccountDevice (crypto : Crypto) (accountId rootPublicKey : Id32)
    (cert : DeviceCertificate) (db : Database) :
    Except ApiError Unit × Database :=
  if accountIdFromRootPublic crypto rootPublicKey ≠ accountId ∨
      !verifyDeviceCertificate crypto rootPublicKey cert then
    (.error .invalidCredentials, db)
  else
    transaction db fun db => do
      if db.hasDevice cert.deviceId then .error .replay
      let db ← db.insertAccountOrIgnore ⟨accountId, rootPublicKey, none, none⟩
      if (db.accounts.lookup accountId).all fun account =>
          account.rootPublicKey ≠ rootPublicKey then .error .conflict
      let db ← db.insertDevice
        ⟨cert.deviceId, accountId, cert.devicePublicKey, none⟩
      let db ← db.insertCertificate
        ⟨cert.deviceId, cert.signature, signed 64 cert.issuedAt.toNat⟩
      pure ((), db)

def beginChallenge (moment : Moment) (deviceId : Id16) (db : Database) :
    Except ApiError Challenge × Database :=
  if (activeDevice db deviceId).isNone then (.error .invalidCredentials, db)
  else
    transaction db fun db => do
      let db ← db.insertChallenge
        { challengeId := moment.randomId
          deviceId
          challenge := moment.firstRandom
          expiresAt := moment.now + seconds challengeTtlSeconds
          consumedAt := none }
      pure (⟨moment.randomId, moment.firstRandom⟩, db)

def issueTokens (crypto : Crypto) (moment : Moment) (deviceId : Id16)
    (family : Option Id16) (db : Database) :
    Except ApiError (SessionTokens × Database) := do
  let db ← db.insertAccess
    { tokenHash := tokenHash crypto "access" moment.firstRandom
      deviceId
      expiresAt := moment.now + seconds accessTtlSeconds }
  let db ← db.insertRefresh
    { tokenHash := tokenHash crypto "refresh" moment.secondRandom
      familyId := family.getD moment.randomId
      deviceId
      replacedByHash := none
      expiresAt := moment.now + seconds refreshTtlSeconds
      usedAt := none
      revokedAt := none }
  pure (⟨moment.firstRandom, moment.secondRandom⟩, db)

def completeChallenge (crypto : Crypto) (moment : Moment) (challengeId : Id16)
    (signature : FixedBytes 64) (db : Database) :
    Except ApiError SessionTokens × Database :=
  transaction db fun db =>
    match db.authChallenges.lookup challengeId with
    | none => .error .invalidCredentials
    | some row =>
        match db.devices.lookup row.deviceId with
        | none => .error .invalidCredentials
        | some device =>
            if row.consumedAt.isSome then .error .replay
            else if row.expiresAt ≤ moment.now then .error .expired
            else if !crypto.verifies device.devicePublicKey
                (authChallengePayload challengeId row.challenge) signature then
              .error .invalidCredentials
            else
              issueTokens crypto moment row.deviceId none
                { db with
                  authChallenges := db.authChallenges.modify challengeId
                    (fun _ => true)
                    (fun row => { row with consumedAt := some moment.now })
                    fun _ => rfl }

/-- The whole family is revoked, and that is committed before the error is
returned. -/
def revokeFamily (now : Time) (family : Id16) (db : Database) : Database :=
  { db with
    refreshSessions := db.refreshSessions.update
      (fun row => row.familyId = family)
      (fun row => { row with revokedAt := some (row.revokedAt.getD now) })
      fun _ => rfl }

def rotateRefresh (crypto : Crypto) (moment : Moment) (deviceId : Id16)
    (refreshToken : Id32) (deviceSignature : FixedBytes 64) (db : Database) :
    Except ApiError SessionTokens × Database :=
  let hash := tokenHash crypto "refresh" refreshToken
  let found := (db.refreshSessions.lookup hash).filter fun row =>
    row.deviceId = deviceId
  match found, db.devices.lookup deviceId with
  | some row, some device =>
      if row.usedAt.isSome ∨ row.revokedAt.isSome then
        (.error .tokenReuse, revokeFamily moment.now row.familyId db)
      else if row.expiresAt ≤ moment.now then (.error .expired, db)
      else if !crypto.verifies device.devicePublicKey
          (refreshProofPayload refreshToken) deviceSignature then
        (.error .invalidCredentials, db)
      else
        transaction db fun db => do
          let (tokens, db) ← issueTokens crypto moment deviceId
            (some row.familyId) db
          pure (tokens,
            { db with
              refreshSessions := db.refreshSessions.modify hash
                (fun _ => true)
                (fun row =>
                  { row with
                    usedAt := some moment.now
                    replacedByHash :=
                      some (tokenHash crypto "refresh" tokens.refreshToken) })
                fun _ => rfl })
  | _, _ => (.error .invalidCredentials, db)

/-! ## Recovery and key packages -/

/-- The recovery slot is free or already carries the identifier. -/
def claimable (recoveryIdentifier : Id32) (account : AccountRow) : Bool :=
  account.recoveryIdentifier.all fun stored => stored = recoveryIdentifier

def withRecovery (recoveryIdentifier : Id32) (encryptedBlob : Bytes)
    (account : AccountRow) : AccountRow :=
  { account with
    recoveryIdentifier := some recoveryIdentifier
    recoveryBlob := some encryptedBlob }

theorem accountId_withRecovery (recoveryIdentifier : Id32) (encryptedBlob : Bytes)
    (account : AccountRow) :
    (withRecovery recoveryIdentifier encryptedBlob account).accountId =
      account.accountId := rfl

/-- The identifier is unique over all accounts. -/
def identifierTaken (accountId recoveryIdentifier : Id32) (db : Database) : Bool :=
  db.accounts.rows.any fun other =>
    other.accountId ≠ accountId ∧
      other.recoveryIdentifier = some recoveryIdentifier

def storeRecoveryPackage (accountId recoveryIdentifier : Id32)
    (encryptedBlob : Bytes) (db : Database) : Except ApiError Unit × Database :=
  if encryptedBlob = [] ∨ maxRecoveryBlobSize < encryptedBlob.length then
    (.error .invalidInput, db)
  else if !db.accounts.affects accountId (claimable recoveryIdentifier) then
    (.error .conflict, db)
  else if identifierTaken accountId recoveryIdentifier db then
    (.error .database, db)
  else
    (.ok (),
      { db with
        accounts := db.accounts.modify accountId (claimable recoveryIdentifier)
          (withRecovery recoveryIdentifier encryptedBlob)
          (accountId_withRecovery recoveryIdentifier encryptedBlob) })

def fetchRecoveryPackage (recoveryIdentifier : Id32) (db : Database) :
    Option Bytes :=
  (db.accounts.rows.find? fun account =>
    account.recoveryIdentifier = some recoveryIdentifier ∧
      account.recoveryBlob.isSome).bind AccountRow.recoveryBlob

def publishKeyPackage (now : Time) (deviceId packageId : Id16)
    (package : Bytes) (db : Database) : Except ApiError Unit × Database :=
  if package = [] ∨ maxKeyPackageSize < package.length then
    (.error .invalidInput, db)
  else if (activeDevice db deviceId).isNone then (.error .conflict, db)
  else
    match db.keyPackages.insert? ⟨packageId, deviceId, package, none, now⟩ with
    | some keyPackages => (.ok (), { db with keyPackages })
    | none => (.error .conflict, db)

def fetchKeyPackage (now : Time) (targetDeviceId : Id16) (db : Database) :
    Option (Id16 × Bytes) × Database :=
  let available := db.keyPackages.rows.filter fun row =>
    row.deviceId = targetDeviceId ∧ row.consumedAt.isNone
  let oldestFirst := available.insertionSort fun left right =>
    left.createdAt ≤ right.createdAt
  match oldestFirst.head? with
  | none => (none, db)
  | some row =>
      (some (row.packageId, row.package),
        { db with
          keyPackages := db.keyPackages.modify row.packageId (fun _ => true)
            (fun row => { row with consumedAt := some now }) fun _ => rfl })

/-! ## Groups -/

def createGroup (groupId creatorDevice : Id16) (accountId : Id32)
    (db : Database) : Except ApiError Unit × Database :=
  transaction db fun db => do
    if (activeDevice db creatorDevice).all fun device =>
        device.accountId ≠ accountId then .error .unauthorized
    let db ← db.insertGroup ⟨groupId, creatorDevice⟩
    let db ← db.insertMember ⟨groupId, creatorDevice, accountId, 2, none⟩
    pure ((), db)

def assertActiveMember (groupId deviceId : Id16) (db : Database) :
    Except ApiError Unit :=
  if (db.groupMembers.lookup (groupId, deviceId)).any fun member =>
      member.removedAt.isNone then .ok ()
  else .error .unauthorized

def membershipOperationPayload (correlationId groupId authorDeviceId
    targetDeviceId : Id16) (role : ℤ) (remove : Bool) : Bytes :=
  ascii "resilient/membership-operation/v1" ++ correlationId.toList ++
    groupId.toList ++ authorDeviceId.toList ++ targetDeviceId.toList ++
      toBigEndian 2 (unsigned 16 role) ++ [if remove then 1 else 0]

def removeMember (now : Time) (groupId deviceId : Id16) (db : Database) :
    Except ApiError Database :=
  let active := fun member : MemberRow => member.removedAt.isNone
  if db.groupMembers.affects (groupId, deviceId) active then
    .ok { db with
      groupMembers := db.groupMembers.modify (groupId, deviceId) active
        (fun member => { member with removedAt := some now }) fun _ => rfl }
  else .error .invalidInput

def admitMember (groupId deviceId : Id16) (role : ℤ) (db : Database) :
    Except ApiError Database :=
  match activeDevice db deviceId with
  | none => .error .invalidInput
  | some device =>
      db.upsertMember ⟨groupId, deviceId, device.accountId, role, none⟩

def applyMembershipOperation (crypto : Crypto) (now : Time)
    (request : MembershipOperation) (db : Database) :
    Except ApiError Bool × Database :=
  if request.role < 0 ∨ 2 < request.role then (.error .invalidInput, db)
  else
    let operation := membershipOperationPayload request.correlationId
      request.groupId request.authorDeviceId request.targetDeviceId
      request.role request.remove
    transaction db fun db =>
      let author := (db.groupMembers.lookup
        (request.groupId, request.authorDeviceId)).filter fun member =>
          member.role = 2 ∧ member.removedAt.isNone
      match author, db.devices.lookup request.authorDeviceId with
      | some _, some device =>
          if !crypto.verifies device.devicePublicKey operation
              request.signature then
            .error .invalidCredentials
          else
            match db.membershipOperations.lookup request.correlationId with
            | some stored =>
                if stored.operation = operation ∧
                    stored.signature = request.signature then
                  .ok (true, db)
                else .error .conflict
            | none => do
                let db ← db.insertMembershipOperation
                  { correlationId := request.correlationId
                    groupId := request.groupId
                    authorDeviceId := request.authorDeviceId
                    operation
                    signature := request.signature
                    appliedAt := none }
                let db ←
                  if request.remove then
                    removeMember now request.groupId request.targetDeviceId db
                  else
                    admitMember request.groupId request.targetDeviceId
                      request.role db
                pure (false,
                  { db with
                    membershipOperations := db.membershipOperations.modify
                      request.correlationId (fun _ => true)
                      (fun row => { row with appliedAt := some now })
                      fun _ => rfl })
      | _, _ => .error .unauthorized

/-! ## Welcomes -/

def uploadWelcome (now : Time) (authorDeviceId targetDeviceId groupId
    welcomeId : Id16) (welcome : Bytes) (db : Database) :
    Except ApiError Unit × Database :=
  if welcome = [] ∨ 65536 < welcome.length then (.error .invalidInput, db)
  else
    transaction db fun db => do
      assertActiveMember groupId authorDeviceId db
      if (db.groupMembers.lookup (groupId, targetDeviceId)).isNone then
        .error .unauthorized
      let db ← db.insertWelcomeOrIgnore
        { welcomeId
          targetDeviceId
          groupId
          welcome
          expiresAt := now + seconds eventTtlSeconds
          consumedAt := none }
      pure ((), db)

/-- `limit.clamp(1, MAX_SYNC_BATCH)`. -/
def batchSize (limit : ℤ) : ℕ := (max 1 (min limit maxSyncBatch)).toNat

def fetchWelcomes (now : Time) (targetDeviceId : Id16) (limit : ℤ)
    (db : Database) : List WelcomeRow × Database :=
  let pending := db.welcomeMailbox.rows.filter fun row =>
    row.targetDeviceId = targetDeviceId ∧ row.consumedAt.isNone ∧
      now < row.expiresAt
  let rows := Paging.pageOf WelcomeRow.expiresAt (batchSize limit) pending
  (rows,
    { db with
      welcomeMailbox := db.welcomeMailbox.update
        (fun row => row.welcomeId ∈ rows.map WelcomeRow.welcomeId)
        (fun row => { row with consumedAt := some now }) fun _ => rfl })

/-! ## Events -/

/-- The row an accepted upload inserts under the cursor it was given. -/
def UploadedEvent.row (event : UploadedEvent) (now : Time) (cursor : ℤ) :
    EventRow where
  eventCursor := cursor
  eventId := event.eventId
  groupId := event.groupId
  authorDeviceId := event.authorDeviceId
  clientMessageId := event.clientMessageId
  correlationId := event.correlationId
  eventKind := event.eventKind
  ciphertext := event.ciphertext
  expiresAt := now + seconds eventTtlSeconds

def appliedOperation (db : Database) (correlationId groupId : Id16) : Bool :=
  (db.membershipOperations.lookup correlationId).any fun row =>
    row.groupId = groupId ∧ row.appliedAt.isSome

/-- Whether the author may post this event. -/
def admitUpload (event : UploadedEvent) (db : Database) :
    Except ApiError Unit := do
  assertActiveMember event.groupId event.authorDeviceId db
  if event.eventKind = eventKindMlsCommit ∧ event.correlationId.isNone then
    .error .invalidInput
  if event.correlationId.any fun correlationId =>
      !appliedOperation db correlationId event.groupId then .error .conflict

/-- The cursor of the row this upload repeats, if there is one. -/
def earlierUpload (event : UploadedEvent) (db : Database) :
    Except ApiError (Option ℤ) :=
  match db.groupEvents.rows.find? fun row =>
      row.authorDeviceId = event.authorDeviceId ∧
        row.clientMessageId = event.clientMessageId with
  | none => .ok none
  | some row =>
      if row.eventId = event.eventId ∧ row.ciphertext = event.ciphertext then
        .ok (some row.eventCursor)
      else .error .conflict

/-- Everything `upload_event` reads before it inserts. -/
def checkUpload (event : UploadedEvent) (db : Database) :
    Except ApiError (Option ℤ) := do
  admitUpload event db
  earlierUpload event db

/-- A failed insertion rolls back everything but the sequence. -/
def uploadEvent (now : Time) (event : UploadedEvent) (db : Database) :
    Except ApiError UploadAccepted × Database :=
  if event.ciphertext = [] ∨ 65536 < event.ciphertext.length then
    (.error .invalidInput, db)
  else
    match checkUpload event db with
    | .error failure => (.error failure, db)
    | .ok (some cursor) => (.ok ⟨cursor, true⟩, db)
    | .ok none =>
        let cursor := db.eventSequence + 1
        transaction { db with eventSequence := cursor } fun db => do
          let db ← db.insertEvent (event.row now cursor)
          pure (⟨cursor, false⟩, db)

def SyncEvent.ofRow (row : EventRow) : SyncEvent :=
  ⟨row.eventCursor, row.eventId, row.eventKind, row.ciphertext⟩

/-- The first events after a cursor, in cursor order. -/
def page (now : Time) (after limit : ℤ) (visible : EventRow → Bool)
    (db : Database) : List EventRow :=
  Paging.pageOf EventRow.eventCursor (batchSize limit)
    (db.groupEvents.rows.filter fun row =>
      visible row ∧ max after 0 < row.eventCursor ∧ now < row.expiresAt)

def syncGroup (now : Time) (deviceId groupId : Id16) (after limit : ℤ)
    (db : Database) : Except ApiError (List SyncEvent) := do
  assertActiveMember groupId deviceId db
  pure ((page now after limit (fun row => row.groupId = groupId) db).map
    SyncEvent.ofRow)

def activeIn (db : Database) (deviceId groupId : Id16) : Bool :=
  (db.groupMembers.lookup (groupId, deviceId)).any fun member =>
    member.removedAt.isNone

def syncGlobal (now : Time) (deviceId : Id16) (after limit : ℤ)
    (db : Database) : List SyncEvent :=
  (page now after limit (fun row => activeIn db deviceId row.groupId) db).map
    SyncEvent.ofRow

/-! ## Receipts -/

/-- One iteration of the loop of `record_receipts`, with the number of rows
inserted so far. -/
def recordReceipt (deviceId : Id16) (receiptType : ℤ)
    (progress : ℕ × Database) (eventId : Id16) : ℕ × Database :=
  let (inserted, db) := progress
  match db.groupEvents.lookup eventId with
  | none => (inserted, db)
  | some event =>
      if activeIn db deviceId event.groupId then
        match db.messageReceipts.insert? ⟨eventId, deviceId, receiptType⟩ with
        | some messageReceipts => (inserted + 1, { db with messageReceipts })
        | none => (inserted, db)
      else (inserted, db)

def recordReceipts (deviceId : Id16) (eventIds : List Id16) (receiptType : ℤ)
    (db : Database) : Except ApiError ℕ × Database :=
  if (receiptType ≠ 1 ∧ receiptType ≠ 2) ∨ maxSyncBatch < eventIds.length then
    (.error .invalidInput, db)
  else
    let (inserted, db) := eventIds.foldl (recordReceipt deviceId receiptType)
      (0, db)
    (.ok inserted, db)

end ResilientMessenger.Backend
