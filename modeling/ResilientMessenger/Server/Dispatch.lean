import ResilientMessenger.Core.ByteReader
import ResilientMessenger.Protocol.Frames
import ResilientMessenger.Server.Backend

/-!
# Dispatching request frames

`dispatch` reads the body of a request, makes one backend call for it and
encodes the answer.  A request that carries an access token is authenticated
as soon as the token is read, before the rest of the body is looked at.
-/

namespace ResilientMessenger.Dispatch

open ResilientMessenger.ByteCodec
open ResilientMessenger.ByteReader
open ResilientMessenger.Frames
open ResilientMessenger.Identity
open ResilientMessenger.Schema
open ResilientMessenger.Backend

/-! ## Request bodies -/

abbrev Body := ByteReader.Reader ApiError

namespace Body

def array (length : ℕ) : Body (FixedBytes length) :=
  ByteReader.array .invalidInput length

def u8 : Body UInt8 := byte .invalidInput

def i16 : Body ℤ := do
  let value ← word .invalidInput 2
  pure (signed 16 value)

def u64 : Body ℕ := word .invalidInput 8

def finish : Body Unit := ByteReader.finish .invalidInput

/-- The octets `0` and `1` as a Boolean. -/
def flag : Body Bool := do
  match ← u8 with
  | 0 => pure false
  | 1 => pure true
  | _ => throw .invalidInput

/-- An optional identifier behind its octet. -/
def optionalId : Body (Option Id16) := do
  match ← u8 with
  | 0 => pure none
  | 1 => do
      let value ← array 16
      pure (some value)
  | _ => throw .invalidInput

end Body

/-- The body of an upload after its access token. -/
inductive UploadRequest where
  | event (groupId eventId : Id16) (eventKind : ℤ) (correlationId : Option Id16)
      (ciphertext : Bytes)
  | keyPackage (packageId : Id16) (package : Bytes)
  | group (groupId : Id16)
  | membership (correlationId groupId targetDeviceId : Id16) (role : ℤ)
      (remove : Bool) (signature : FixedBytes 64)
  | welcome (target group welcomeId : Id16) (welcome : Bytes)
  | recovery (recoveryIdentifier : Id32) (blob : Bytes)
  deriving DecidableEq

namespace UploadRequest

def operation : UploadRequest → UInt8
  | event .. => 1
  | keyPackage .. => 2
  | group .. => 3
  | membership .. => 4
  | welcome .. => 5
  | recovery .. => 6

/-- The fields that follow an operation octet. -/
def fields (operation : UInt8) : Body UploadRequest :=
  match operation with
  | 1 => do
      let groupId ← Body.array 16
      let eventId ← Body.array 16
      let eventKind ← Body.i16
      let correlationId ← Body.optionalId
      let ciphertext ← rest
      pure (event groupId eventId eventKind correlationId ciphertext)
  | 2 => do
      let packageId ← Body.array 16
      let package ← rest
      pure (keyPackage packageId package)
  | 3 => do
      let groupId ← Body.array 16
      Body.finish
      pure (group groupId)
  | 4 => do
      let correlationId ← Body.array 16
      let groupId ← Body.array 16
      let targetDeviceId ← Body.array 16
      let role ← Body.u8
      let remove ← Body.flag
      let signature ← Body.array 64
      Body.finish
      pure (membership correlationId groupId targetDeviceId role.toNat remove
        signature)
  | 5 => do
      let target ← Body.array 16
      let group ← Body.array 16
      let welcomeId ← Body.array 16
      let content ← rest
      pure (welcome target group welcomeId content)
  | 6 => do
      let recoveryIdentifier ← Body.array 32
      let blob ← rest
      pure (recovery recoveryIdentifier blob)
  | _ => throw .invalidInput

def reader : Body UploadRequest := do
  let operation ← Body.u8
  fields operation

end UploadRequest

inductive SyncRequest where
  | events (groupId : Option Id16) (after limit : ℤ)
  | keyPackage (target : Id16)
  | welcomes (limit : ℤ)

namespace SyncRequest

def reader : Body SyncRequest := do
  let operation ← Body.u8
  match operation with
  | 0 => do
      let groupId ← Body.array 16
      let after ← Body.u64
      let limit ← Body.u8
      Body.finish
      pure (events (some groupId) (signed 64 after) limit.toNat)
  | 1 => do
      let after ← Body.u64
      let limit ← Body.u8
      Body.finish
      pure (events none (signed 64 after) limit.toNat)
  | 2 => do
      let target ← Body.array 16
      Body.finish
      pure (keyPackage target)
  | 3 => do
      let limit ← Body.u8
      Body.finish
      pure (welcomes limit.toNat)
  | _ => throw .invalidInput

end SyncRequest

def readMany (length : ℕ) : ℕ → Body (List (FixedBytes length))
  | 0 => pure []
  | count + 1 => do
      let first ← Body.array length
      let others ← readMany length count
      pure (first :: others)

/-! ## Handlers -/

/-- Continue with a successful result and the state that came with it. -/
def andThen {α β : Type} (outcome : Except ApiError α × Database)
    (next : α → Database → Except ApiError β × Database) :
    Except ApiError β × Database :=
  match outcome with
  | (.error failure, db) => (.error failure, db)
  | (.ok value, db) => next value db

/-- A step that only reads. -/
def reading {α β : Type} (result : Except ApiError α) (db : Database)
    (next : α → Except ApiError β × Database) :
    Except ApiError β × Database :=
  match result with
  | .error failure => (.error failure, db)
  | .ok value => next value

abbrev Handler := Database → Except ApiError Bytes × Database

def clientHello (crypto : Crypto) (body : Bytes) : Handler := fun db =>
  let request : Body (Id32 × Id32 × DeviceCertificate) := do
    let accountId ← Body.array 32
    let rootPublicKey ← Body.array 32
    let deviceId ← Body.array 16
    let devicePublicKey ← Body.array 32
    let issuedAt ← Body.u64
    let signature ← Body.array 64
    Body.finish
    pure (accountId, rootPublicKey,
      ⟨deviceId, devicePublicKey, UInt64.ofNat issuedAt, signature⟩)
  reading (decodeWith request body) db fun (accountId, rootPublicKey, cert) =>
    andThen (registerAccountDevice crypto accountId rootPublicKey cert db)
      fun _ db => (.ok [], db)

/-- The challenge is stored before the end of the body is checked. -/
def authChallenge (moment : Moment) (body : Bytes) : Handler := fun db =>
  reading (Body.array 16 body) db fun (deviceId, unread) =>
    andThen (beginChallenge moment deviceId db) fun challenge db =>
      reading (Body.finish unread) db fun _ =>
        (.ok (challenge.challengeId.toList ++ challenge.challenge.toList), db)

def authResponse (crypto : Crypto) (moment : Moment) (body : Bytes) :
    Handler := fun db =>
  let issued :=
    if body.length = 80 then
      let request : Body (Id16 × FixedBytes 64) := do
        let challengeId ← Body.array 16
        let signature ← Body.array 64
        pure (challengeId, signature)
      reading (decodeWith request body) db fun (challengeId, signature) =>
        completeChallenge crypto moment challengeId signature db
    else if body.length = 112 then
      let request : Body (Id16 × Id32 × FixedBytes 64) := do
        let deviceId ← Body.array 16
        let refreshToken ← Body.array 32
        let signature ← Body.array 64
        pure (deviceId, refreshToken, signature)
      reading (decodeWith request body) db
        fun (deviceId, refreshToken, signature) =>
          rotateRefresh crypto moment deviceId refreshToken signature db
    else (.error .invalidInput, db)
  andThen issued fun tokens db =>
    (.ok (tokens.accessToken.toList ++ tokens.refreshToken.toList), db)

/-- The backend call of an upload, with what follows the operation octet in the
answer. -/
def performUpload (crypto : Crypto) (now : Time) (clientMessageId author : Id16) :
    UploadRequest → Handler
  | .event groupId eventId eventKind correlationId ciphertext, db =>
      andThen (uploadEvent now
          { eventId
            groupId
            authorDeviceId := author
            clientMessageId
            eventKind
            ciphertext
            correlationId } db)
        fun accepted db =>
          (.ok (toBigEndian 8 (unsigned 64 accepted.cursor) ++
            [if accepted.duplicate then 1 else 0]), db)
  | .keyPackage packageId package, db =>
      andThen (publishKeyPackage now author packageId package db)
        fun _ db => (.ok [], db)
  | .group groupId, db =>
      reading (deviceAccountId author db) db fun accountId =>
        andThen (createGroup groupId author accountId db)
          fun _ db => (.ok [], db)
  | .membership correlationId groupId targetDeviceId role remove signature, db =>
      andThen (applyMembershipOperation crypto now
          { correlationId
            groupId
            authorDeviceId := author
            targetDeviceId
            role
            remove
            signature } db)
        fun repeated db => (.ok [if repeated then 1 else 0], db)
  | .welcome target group welcomeId welcome, db =>
      andThen (uploadWelcome now author target group welcomeId welcome db)
        fun _ db => (.ok [], db)
  | .recovery recoveryIdentifier blob, db =>
      reading (deviceAccountId author db) db fun accountId =>
        andThen (storeRecoveryPackage accountId recoveryIdentifier blob db)
          fun _ db => (.ok [], db)

/-- Read the access token and authenticate it. -/
def authenticated (crypto : Crypto) (now : Time) (body : Bytes)
    (next : Id16 → Bytes → Handler) : Handler := fun db =>
  reading (Body.array 32 body) db fun (token, unread) =>
    reading (authenticateAccess crypto now token db) db fun deviceId =>
      next deviceId unread db

def uploadEnvelope (crypto : Crypto) (now : Time) (clientMessageId : Id16)
    (body : Bytes) : Handler :=
  authenticated crypto now body fun author unread db =>
    reading (decodeWith UploadRequest.reader unread) db fun request =>
      andThen (performUpload crypto now clientMessageId author request db)
        fun encoded db => (.ok (request.operation :: encoded), db)

def encodeEvent (event : SyncEvent) : Bytes :=
  toBigEndian 8 (unsigned 64 event.cursor) ++ event.eventId.toList ++
    toBigEndian 2 (unsigned 16 event.eventKind) ++
      toBigEndian 4 event.ciphertext.length ++ event.ciphertext

def encodeWelcome (row : WelcomeRow) : Bytes :=
  row.welcomeId.toList ++ row.groupId.toList ++
    toBigEndian 4 row.welcome.length ++ row.welcome

def performSync (now : Time) (deviceId : Id16) : SyncRequest → Handler
  | .events groupId after limit, db =>
      let events :=
        match groupId with
        | some groupId => syncGroup now deviceId groupId after limit db
        | none => .ok (syncGlobal now deviceId after limit db)
      reading events db fun events =>
        (.ok ((if groupId.isSome then 0 else 1) ::
          UInt8.ofNat events.length :: events.flatMap encodeEvent), db)
  | .keyPackage target, db =>
      match fetchKeyPackage now target db with
      | (some (packageId, package), db) =>
          (.ok (2 :: 1 :: (packageId.toList ++ package)), db)
      | (none, db) => (.ok [2, 0], db)
  | .welcomes limit, db =>
      let (rows, db) := fetchWelcomes now deviceId limit db
      (.ok (3 :: UInt8.ofNat rows.length :: rows.flatMap encodeWelcome), db)

def syncRequest (crypto : Crypto) (now : Time) (body : Bytes) : Handler :=
  authenticated crypto now body fun deviceId unread db =>
    reading (decodeWith SyncRequest.reader unread) db fun request =>
      performSync now deviceId request db

def relayDirectoryRequest (body : Bytes) : Handler := fun db =>
  let request : Body Id32 := do
    let operation ← Body.u8
    ensure (operation = 1) .invalidInput
    let recoveryIdentifier ← Body.array 32
    Body.finish
    pure recoveryIdentifier
  reading (decodeWith request body) db fun recoveryIdentifier =>
    match fetchRecoveryPackage recoveryIdentifier db with
    | some blob => (.ok (1 :: 1 :: blob), db)
    | none => (.ok [1, 0], db)

def receiptBatch (crypto : Crypto) (now : Time) (receiptType : ℤ)
    (body : Bytes) : Handler :=
  authenticated crypto now body fun deviceId unread db =>
    let request : Body (List Id16) := do
      let count ← Body.u8
      ensure (count ≤ 50) .invalidInput
      let eventIds ← readMany 16 count.toNat
      Body.finish
      pure eventIds
    reading (decodeWith request unread) db fun eventIds =>
      andThen (recordReceipts deviceId eventIds receiptType db)
        fun _ db => (.ok [], db)

/-- The kind of the answer and the handler of a request, for the kinds of frame
a client may send. -/
def route (crypto : Crypto) (moment : Moment) (frame : TransportFrame) :
    Option (FrameType × Handler) :=
  match frame.kind with
  | .clientHello => some (.serverHello, clientHello crypto frame.body)
  | .authChallenge => some (.authChallenge, authChallenge moment frame.body)
  | .authResponse => some (.authAccepted, authResponse crypto moment frame.body)
  | .uploadEnvelope =>
      some (.uploadAccepted,
        uploadEnvelope crypto moment.now frame.clientMessageId frame.body)
  | .syncRequest => some (.syncBatch, syncRequest crypto moment.now frame.body)
  | .relayDirectoryRequest =>
      some (.relayDirectoryResponse, relayDirectoryRequest frame.body)
  | .deliveryReceiptBatch =>
      some (.deliveryReceiptBatch,
        receiptBatch crypto moment.now 1 frame.body)
  | .readReceiptBatch =>
      some (.readReceiptBatch, receiptBatch crypto moment.now 2 frame.body)
  | .ping => some (.pong, fun db => (.ok frame.body, db))
  | _ => none

def dispatch (crypto : Crypto) (moment : Moment) (frame : TransportFrame)
    (db : Database) : Except ApiError TransportFrame × Database :=
  match route crypto moment frame with
  | none => (.error .invalidInput, db)
  | some (kind, handler) =>
      andThen (handler db) fun body db =>
        (.ok
          { version := UInt16.ofNat protocolVersion
            kind
            clientMessageId := frame.clientMessageId
            ttlSeconds := 0
            body }, db)

end ResilientMessenger.Dispatch
