import ResilientMessenger.Server.Effects

/-!
# The call a frame asks for

`dispatch` reads, authenticates, calls the backend and encodes in one go.
`requestedCall` is the part before the backend: the one call that a frame asks
for in the current database, if it gets that far.  `serve_requested` says that
nothing else changes the database, so that what a table goes through can be
traced back to the kind of the frames.
-/

namespace ResilientMessenger.RequestedCalls

open ResilientMessenger.ByteCodec
open ResilientMessenger.ByteReader (decodeWith ensure)
open ResilientMessenger.Frames
open ResilientMessenger.Identity
open ResilientMessenger.Schema
open ResilientMessenger.Backend
open ResilientMessenger.Dispatch
open ResilientMessenger.Calls
open ResilientMessenger.Effects

/-! ## Request bodies without a token -/

def helloReader : Body (Id32 × Id32 × DeviceCertificate) := do
  let accountId ← Body.array 32
  let rootPublicKey ← Body.array 32
  let deviceId ← Body.array 16
  let devicePublicKey ← Body.array 32
  let issuedAt ← Body.u64
  let signature ← Body.array 64
  Body.finish
  pure (accountId, rootPublicKey,
    ⟨deviceId, devicePublicKey, UInt64.ofNat issuedAt, signature⟩)

def answerReader : Body (Id16 × FixedBytes 64) := do
  let challengeId ← Body.array 16
  let signature ← Body.array 64
  pure (challengeId, signature)

def refreshReader : Body (Id16 × Id32 × FixedBytes 64) := do
  let deviceId ← Body.array 16
  let refreshToken ← Body.array 32
  let signature ← Body.array 64
  pure (deviceId, refreshToken, signature)

def receiptReader : Body (List Id16) := do
  let count ← Body.u8
  ensure (count ≤ 50) .invalidInput
  let eventIds ← readMany 16 count.toNat
  Body.finish
  pure eventIds

/-! ## From frames to calls -/

def uploadCall (clientMessageId author : Id16) (db : Database) :
    UploadRequest → Option Call
  | .event groupId eventId eventKind correlationId ciphertext =>
      some (.uploadEvent
        { eventId
          groupId
          authorDeviceId := author
          clientMessageId
          eventKind
          ciphertext
          correlationId })
  | .keyPackage packageId package => some (.publishKeyPackage author packageId package)
  | .group groupId =>
      (deviceAccountId author db).toOption.map fun accountId =>
        .createGroup groupId author accountId
  | .membership correlationId groupId targetDeviceId role remove signature =>
      some (.applyMembershipOperation
        { correlationId
          groupId
          authorDeviceId := author
          targetDeviceId
          role
          remove
          signature })
  | .welcome target group welcomeId welcome =>
      some (.uploadWelcome author target group welcomeId welcome)
  | .recovery recoveryIdentifier blob =>
      (deviceAccountId author db).toOption.map fun accountId =>
        .storeRecoveryPackage accountId recoveryIdentifier blob

def syncCall (deviceId : Id16) : SyncRequest → Option Call
  | .events .. => none
  | .keyPackage target => some (.fetchKeyPackage target)
  | .welcomes limit => some (.fetchWelcomes deviceId limit)

/-- The device whose token the body starts with and the rest of the body. -/
def signedIn (crypto : Crypto) (now : Time) (body : Bytes) (db : Database) :
    Option (Id16 × Bytes) := do
  let (token, unread) ← (Body.array 32 body).toOption
  let deviceId ← (authenticateAccess crypto now token db).toOption
  pure (deviceId, unread)

def requestedCall (crypto : Crypto) (now : Time) (frame : TransportFrame)
    (db : Database) : Option Call :=
  match frame.kind with
  | .clientHello => do
      let (accountId, rootPublicKey, cert) ←
        (decodeWith helloReader frame.body).toOption
      pure (.registerAccountDevice accountId rootPublicKey cert)
  | .authChallenge => do
      let (deviceId, _) ← (Body.array 16 frame.body).toOption
      pure (.beginChallenge deviceId)
  | .authResponse =>
      if frame.body.length = 80 then do
        let (challengeId, signature) ← (decodeWith answerReader frame.body).toOption
        pure (.completeChallenge challengeId signature)
      else if frame.body.length = 112 then do
        let (deviceId, refreshToken, signature) ←
          (decodeWith refreshReader frame.body).toOption
        pure (.rotateRefresh deviceId refreshToken signature)
      else none
  | .uploadEnvelope => do
      let (author, unread) ← signedIn crypto now frame.body db
      let request ← (decodeWith UploadRequest.reader unread).toOption
      uploadCall frame.clientMessageId author db request
  | .syncRequest => do
      let (deviceId, unread) ← signedIn crypto now frame.body db
      let request ← (decodeWith SyncRequest.reader unread).toOption
      syncCall deviceId request
  | .deliveryReceiptBatch => do
      let (deviceId, unread) ← signedIn crypto now frame.body db
      let eventIds ← (decodeWith receiptReader unread).toOption
      pure (.recordReceipts deviceId eventIds 1)
  | .readReceiptBatch => do
      let (deviceId, unread) ← signedIn crypto now frame.body db
      let eventIds ← (decodeWith receiptReader unread).toOption
      pure (.recordReceipts deviceId eventIds 2)
  | _ => none

/-- The database after the call, if there is one. -/
def carryOut (crypto : Crypto) (moment : Moment) (db : Database) :
    Option Call → Database
  | none => db
  | some call => call.perform crypto moment db

/-! ## Dispatching carries out the requested call -/

section Handlers

variable {crypto : Crypto} {moment : Moment} {now : Time} {body : Bytes}
variable {db : Database}

theorem reading_snd {α β : Type} {result : Except ApiError α}
    {next : α → Except ApiError β × Database} {call : α → Option Call}
    (hnext : ∀ value, result = .ok value →
      (next value).2 = carryOut crypto moment db (call value)) :
    (reading result db next).2 =
      carryOut crypto moment db (result.toOption.bind call) := by
  cases result with
  | error failure => rfl
  | ok value => exact hnext value rfl

theorem reading_unchanged {α β : Type} {result : Except ApiError α}
    {next : α → Except ApiError β × Database} (hnext : ∀ value, (next value).2 = db) :
    (reading result db next).2 = db := by
  cases result with
  | error failure => rfl
  | ok value => exact hnext value

theorem authenticated_snd {next : Id16 → Bytes → Handler}
    {call : Id16 × Bytes → Option Call}
    (hnext : ∀ deviceId unread,
      (next deviceId unread db).2 = carryOut crypto moment db (call (deviceId, unread))) :
    (authenticated crypto moment.now body next db).2 =
      carryOut crypto moment db ((signedIn crypto moment.now body db).bind call) := by
  unfold authenticated signedIn
  cases htoken : Body.array 32 body with
  | error failure => rfl
  | ok read =>
      obtain ⟨token, unread⟩ := read
      simp only [reading, Except.toOption, Option.bind_eq_bind, Option.bind_some]
      cases hdevice : authenticateAccess crypto moment.now token db with
      | error failure => rfl
      | ok deviceId => exact hnext deviceId unread

theorem performUpload_snd (clientMessageId author : Id16) (request : UploadRequest) :
    (performUpload crypto moment.now clientMessageId author request db).2 =
      carryOut crypto moment db (uploadCall clientMessageId author db request) := by
  cases request with
  | event groupId eventId eventKind correlationId ciphertext =>
      simp only [performUpload, uploadCall]
      rw [andThen_answer fun _ _ => rfl]
      rfl
  | keyPackage packageId package =>
      simp only [performUpload, uploadCall]
      rw [andThen_answer fun _ _ => rfl]
      rfl
  | group groupId =>
      simp only [performUpload, uploadCall]
      cases deviceAccountId author db with
      | error failure => rfl
      | ok accountId =>
          simp only [reading]
          rw [andThen_answer fun _ _ => rfl]
          rfl
  | membership correlationId groupId targetDeviceId role remove signature =>
      simp only [performUpload, uploadCall]
      rw [andThen_answer fun _ _ => rfl]
      rfl
  | welcome target group welcomeId welcome =>
      simp only [performUpload, uploadCall]
      rw [andThen_answer fun _ _ => rfl]
      rfl
  | recovery recoveryIdentifier blob =>
      simp only [performUpload, uploadCall]
      cases deviceAccountId author db with
      | error failure => rfl
      | ok accountId =>
          simp only [reading]
          rw [andThen_answer fun _ _ => rfl]
          rfl

theorem performSync_snd (deviceId : Id16) (request : SyncRequest) :
    (performSync moment.now deviceId request db).2 =
      carryOut crypto moment db (syncCall deviceId request) := by
  cases request with
  | events groupId after limit =>
      exact reading_unchanged fun events => rfl
  | keyPackage target =>
      simp only [performSync, syncCall, carryOut, Call.perform]
      rcases hfetch : fetchKeyPackage moment.now target db with ⟨_ | found, next⟩ <;> rfl
  | welcomes limit => rfl

theorem clientHello_snd :
    (clientHello crypto body db).2 = carryOut crypto moment db
      ((decodeWith helloReader body).toOption.bind fun hello =>
        some (.registerAccountDevice hello.1 hello.2.1 hello.2.2)) := by
  apply reading_snd
  intro hello _
  rw [andThen_answer fun _ _ => rfl]
  rfl

theorem authChallenge_snd :
    (authChallenge moment body db).2 = carryOut crypto moment db
      ((Body.array 16 body).toOption.bind fun read =>
        some (.beginChallenge read.1)) := by
  apply reading_snd
  intro read _
  rw [andThen_answer]
  · rfl
  · intro challenge after
    cases Body.finish read.2 <;> rfl

theorem authResponse_snd :
    (authResponse crypto moment body db).2 = carryOut crypto moment db
      (if body.length = 80 then
        (decodeWith answerReader body).toOption.bind fun read =>
          some (.completeChallenge read.1 read.2)
      else if body.length = 112 then
        (decodeWith refreshReader body).toOption.bind fun read =>
          some (.rotateRefresh read.1 read.2.1 read.2.2)
      else none) := by
  unfold authResponse
  rw [andThen_answer fun _ _ => rfl]
  split
  · apply reading_snd
    intro read _
    rfl
  · split
    · apply reading_snd
      intro read _
      rfl
    · rfl

theorem receiptBatch_snd (receiptType : ℤ) :
    (receiptBatch crypto moment.now receiptType body db).2 =
      carryOut crypto moment db ((signedIn crypto moment.now body db).bind fun caller =>
        (decodeWith receiptReader caller.2).toOption.bind fun eventIds =>
          some (.recordReceipts caller.1 eventIds receiptType)) := by
  apply authenticated_snd
  intro deviceId unread
  apply reading_snd
  intro eventIds _
  rw [andThen_answer fun _ _ => rfl]
  rfl

theorem uploadEnvelope_snd (clientMessageId : Id16) :
    (uploadEnvelope crypto moment.now clientMessageId body db).2 =
      carryOut crypto moment db ((signedIn crypto moment.now body db).bind fun caller =>
        (decodeWith UploadRequest.reader caller.2).toOption.bind
          (uploadCall clientMessageId caller.1 db)) := by
  apply authenticated_snd
  intro author unread
  apply reading_snd
  intro request _
  rw [andThen_answer fun _ _ => rfl]
  exact performUpload_snd clientMessageId author request

theorem syncRequest_snd :
    (syncRequest crypto moment.now body db).2 =
      carryOut crypto moment db ((signedIn crypto moment.now body db).bind fun caller =>
        (decodeWith SyncRequest.reader caller.2).toOption.bind (syncCall caller.1)) := by
  apply authenticated_snd
  intro deviceId unread
  apply reading_snd
  intro request _
  exact performSync_snd deviceId request

theorem relayDirectoryRequest_snd : (relayDirectoryRequest body db).2 = db := by
  apply reading_unchanged
  intro recoveryIdentifier
  cases fetchRecoveryPackage recoveryIdentifier db with
  | none => rfl
  | some blob => rfl

end Handlers

/-- A request does to the database what the call it asks for does. -/
theorem serve_requested (crypto : Crypto) (db : Database) (request : Request) :
    serve crypto db request = carryOut crypto request.moment db
      (requestedCall crypto request.moment.now request.frame db) := by
  obtain ⟨moment, frame⟩ := request
  obtain ⟨version, kind, clientMessageId, ttlSeconds, body⟩ := frame
  simp only [serve, dispatch]
  cases kind with
  | clientHello =>
      simp only [route]
      rw [andThen_answer fun _ _ => rfl]
      exact clientHello_snd
  | authChallenge =>
      simp only [route]
      rw [andThen_answer fun _ _ => rfl]
      exact authChallenge_snd
  | authResponse =>
      simp only [route]
      rw [andThen_answer fun _ _ => rfl]
      exact authResponse_snd
  | uploadEnvelope =>
      simp only [route]
      rw [andThen_answer fun _ _ => rfl]
      exact uploadEnvelope_snd clientMessageId
  | syncRequest =>
      simp only [route]
      rw [andThen_answer fun _ _ => rfl]
      exact syncRequest_snd
  | deliveryReceiptBatch =>
      simp only [route]
      rw [andThen_answer fun _ _ => rfl]
      exact receiptBatch_snd 1
  | readReceiptBatch =>
      simp only [route]
      rw [andThen_answer fun _ _ => rfl]
      exact receiptBatch_snd 2
  | relayDirectoryRequest =>
      simp only [route, requestedCall]
      rw [andThen_answer fun _ _ => rfl]
      exact relayDirectoryRequest_snd
  | ping => rfl
  | _ => rfl

/-! ## The frame of a call -/

/-- The kind of frame that asks for the call. -/
def origin : Call → FrameType
  | .registerAccountDevice .. => .clientHello
  | .beginChallenge .. => .authChallenge
  | .completeChallenge .. => .authResponse
  | .rotateRefresh .. => .authResponse
  | .fetchKeyPackage .. => .syncRequest
  | .fetchWelcomes .. => .syncRequest
  | .recordReceipts _ _ receiptType =>
      if receiptType = 1 then .deliveryReceiptBatch else .readReceiptBatch
  | _ => .uploadEnvelope

section Inversion

variable {crypto : Crypto} {now : Time} {frame : TransportFrame} {db : Database}
variable {call : Call}

theorem origin_uploadCall {clientMessageId author : Id16} {request : UploadRequest}
    (hcall : uploadCall clientMessageId author db request = some call) :
    origin call = .uploadEnvelope := by
  cases request with
  | group groupId =>
      obtain ⟨accountId, -, rfl⟩ := Option.map_eq_some_iff.mp hcall
      rfl
  | recovery recoveryIdentifier blob =>
      obtain ⟨accountId, -, rfl⟩ := Option.map_eq_some_iff.mp hcall
      rfl
  | _ =>
      cases hcall
      rfl

theorem origin_syncCall {deviceId : Id16} {request : SyncRequest}
    (hcall : syncCall deviceId request = some call) :
    origin call = .syncRequest := by
  cases request with
  | events groupId after limit => cases hcall
  | keyPackage target =>
      cases hcall
      rfl
  | welcomes limit =>
      cases hcall
      rfl

theorem kind_of_requested (hcall : requestedCall crypto now frame db = some call) :
    frame.kind = origin call := by
  unfold requestedCall at hcall
  split at hcall
  case h_1 hkind =>
    obtain ⟨hello, -, hcall⟩ := Option.bind_eq_some_iff.mp hcall
    cases hcall
    exact hkind
  case h_2 hkind =>
    obtain ⟨read, -, hcall⟩ := Option.bind_eq_some_iff.mp hcall
    cases hcall
    exact hkind
  case h_3 hkind =>
    split at hcall
    · obtain ⟨read, -, hcall⟩ := Option.bind_eq_some_iff.mp hcall
      cases hcall
      exact hkind
    · split at hcall
      · obtain ⟨read, -, hcall⟩ := Option.bind_eq_some_iff.mp hcall
        cases hcall
        exact hkind
      · cases hcall
  case h_4 hkind =>
    obtain ⟨caller, -, hcall⟩ := Option.bind_eq_some_iff.mp hcall
    obtain ⟨request, -, hcall⟩ := Option.bind_eq_some_iff.mp hcall
    rw [hkind, origin_uploadCall hcall]
  case h_5 hkind =>
    obtain ⟨caller, -, hcall⟩ := Option.bind_eq_some_iff.mp hcall
    obtain ⟨request, -, hcall⟩ := Option.bind_eq_some_iff.mp hcall
    rw [hkind, origin_syncCall hcall]
  case h_6 hkind =>
    obtain ⟨caller, -, hcall⟩ := Option.bind_eq_some_iff.mp hcall
    obtain ⟨eventIds, -, hcall⟩ := Option.bind_eq_some_iff.mp hcall
    cases hcall
    exact hkind
  case h_7 hkind =>
    obtain ⟨caller, -, hcall⟩ := Option.bind_eq_some_iff.mp hcall
    obtain ⟨eventIds, -, hcall⟩ := Option.bind_eq_some_iff.mp hcall
    cases hcall
    exact hkind
  case h_8 => cases hcall

theorem toOption_eq_some {ε α : Type} {result : Except ε α} {value : α} :
    result.toOption = some value ↔ result = .ok value := by
  cases result <;> simp [Except.toOption]

theorem signedIn_eq_some {body unread : Bytes} {deviceId : Id16} :
    signedIn crypto now body db = some (deviceId, unread) ↔
      ∃ token, Body.array 32 body = .ok (token, unread) ∧
        authenticateAccess crypto now token db = .ok deviceId := by
  unfold signedIn
  simp only [Option.bind_eq_bind, Option.bind_eq_some_iff, toOption_eq_some,
    Option.pure_def, Option.some.injEq, Prod.mk.injEq, Prod.exists]
  constructor
  · rintro ⟨token, read, htoken, device, hdevice, rfl, rfl⟩
    exact ⟨token, htoken, hdevice⟩
  · rintro ⟨token, htoken, hdevice⟩
    exact ⟨token, unread, htoken, deviceId, hdevice, rfl, rfl⟩

theorem requested_completeChallenge {challengeId : Id16} {signature : FixedBytes 64}
    (hcall : requestedCall crypto now frame db =
      some (.completeChallenge challengeId signature)) :
    frame.kind = .authResponse ∧
      frame.body = challengeId.toList ++ signature.toList := by
  have hkind : frame.kind = .authResponse := kind_of_requested hcall
  refine ⟨hkind, ?_⟩
  simp only [requestedCall, hkind] at hcall
  split at hcall
  case isTrue hlength =>
    obtain ⟨read, hread, hcall⟩ := Option.bind_eq_some_iff.mp hcall
    cases hcall
    obtain ⟨unread, hreader⟩ :=
      ByteReader.decodeWith_eq_ok.mp (toOption_eq_some.mp hread)
    simp only [answerReader, Body.array, ByteReader.bind_eq_ok, ByteReader.array_eq_ok,
      ByteReader.pure_eq_ok, Prod.mk.injEq] at hreader
    obtain ⟨_, _, hbody, _, _, rfl, rfl, rfl⟩ := hreader
    rw [hbody] at hlength ⊢
    have hunread : unread = [] := by
      simp only [List.length_append, List.Vector.toList_length] at hlength
      exact List.length_eq_zero_iff.mp (by omega)
    rw [hunread, List.append_nil]
  case isFalse =>
    split at hcall
    · obtain ⟨read, -, hcall⟩ := Option.bind_eq_some_iff.mp hcall
      cases hcall
    · cases hcall

theorem requested_rotateRefresh {deviceId : Id16} {refreshToken : Id32}
    {signature : FixedBytes 64}
    (hcall : requestedCall crypto now frame db =
      some (.rotateRefresh deviceId refreshToken signature)) :
    frame.kind = .authResponse ∧
      frame.body =
        deviceId.toList ++ refreshToken.toList ++ signature.toList := by
  have hkind : frame.kind = .authResponse := kind_of_requested hcall
  refine ⟨hkind, ?_⟩
  simp only [requestedCall, hkind] at hcall
  split at hcall
  case isTrue =>
    obtain ⟨read, -, hcall⟩ := Option.bind_eq_some_iff.mp hcall
    cases hcall
  case isFalse =>
    split at hcall
    case isTrue hlength =>
      obtain ⟨read, hread, hcall⟩ := Option.bind_eq_some_iff.mp hcall
      cases hcall
      obtain ⟨unread, hreader⟩ :=
        ByteReader.decodeWith_eq_ok.mp (toOption_eq_some.mp hread)
      simp only [refreshReader, Body.array, ByteReader.bind_eq_ok,
        ByteReader.array_eq_ok, ByteReader.pure_eq_ok, Prod.mk.injEq] at hreader
      obtain ⟨_, _, hbody, _, _, rfl, _, _, rfl, rfl, rfl⟩ := hreader
      rw [hbody] at hlength ⊢
      have hunread : unread = [] := by
        simp only [List.length_append, List.Vector.toList_length] at hlength
        exact List.length_eq_zero_iff.mp (by omega)
      rw [hunread, List.append_nil, List.append_assoc]
    case isFalse => cases hcall

end Inversion

/-! ## The tables of a call -/

/-- The tables a call can change; the others stay as they are. -/
inductive Extent (db : Database) : Call → Database → Prop where
  | registerAccountDevice {accountId rootPublicKey : Id32} {cert : DeviceCertificate}
      (accounts : Table AccountRow.accountId) (devices : Table DeviceRow.deviceId)
      (deviceCertificates : Table CertificateRow.deviceId) :
      Extent db (.registerAccountDevice accountId rootPublicKey cert)
        { db with accounts, devices, deviceCertificates }
  | beginChallenge {deviceId : Id16}
      (authChallenges : Table ChallengeRow.challengeId) :
      Extent db (.beginChallenge deviceId) { db with authChallenges }
  | completeChallenge {challengeId : Id16} {signature : FixedBytes 64}
      (authChallenges : Table ChallengeRow.challengeId)
      (accessSessions : Table AccessRow.tokenHash)
      (refreshSessions : Table RefreshRow.tokenHash) :
      Extent db (.completeChallenge challengeId signature)
        { db with authChallenges, accessSessions, refreshSessions }
  | rotateRefresh {deviceId : Id16} {refreshToken : Id32} {signature : FixedBytes 64}
      (accessSessions : Table AccessRow.tokenHash)
      (refreshSessions : Table RefreshRow.tokenHash) :
      Extent db (.rotateRefresh deviceId refreshToken signature)
        { db with accessSessions, refreshSessions }
  | uploadEvent {event : UploadedEvent} (groupEvents : Table EventRow.eventId)
      (eventSequence : ℤ) :
      Extent db (.uploadEvent event) { db with groupEvents, eventSequence }
  | publishKeyPackage {deviceId packageId : Id16} {package : Bytes}
      (keyPackages : Table KeyPackageRow.packageId) :
      Extent db (.publishKeyPackage deviceId packageId package) { db with keyPackages }
  | createGroup {groupId creator : Id16} {accountId : Id32}
      (groups : Table GroupRow.groupId) (groupMembers : Table MemberRow.key) :
      Extent db (.createGroup groupId creator accountId)
        { db with groups, groupMembers }
  | applyMembershipOperation {request : MembershipOperation}
      (groupMembers : Table MemberRow.key)
      (membershipOperations : Table MembershipRow.correlationId) :
      Extent db (.applyMembershipOperation request)
        { db with groupMembers, membershipOperations }
  | uploadWelcome {author target group welcomeId : Id16} {welcome : Bytes}
      (welcomeMailbox : Table WelcomeRow.welcomeId) :
      Extent db (.uploadWelcome author target group welcomeId welcome)
        { db with welcomeMailbox }
  | storeRecoveryPackage {accountId recoveryIdentifier : Id32} {blob : Bytes}
      (accounts : Table AccountRow.accountId) :
      Extent db (.storeRecoveryPackage accountId recoveryIdentifier blob)
        { db with accounts }
  | fetchKeyPackage {target : Id16} (keyPackages : Table KeyPackageRow.packageId) :
      Extent db (.fetchKeyPackage target) { db with keyPackages }
  | fetchWelcomes {target : Id16} {limit : ℤ}
      (welcomeMailbox : Table WelcomeRow.welcomeId) :
      Extent db (.fetchWelcomes target limit) { db with welcomeMailbox }
  | recordReceipts {deviceId : Id16} {eventIds : List Id16} {receiptType : ℤ}
      (messageReceipts : Table (id : ReceiptRow → ReceiptRow)) :
      Extent db (.recordReceipts deviceId eventIds receiptType)
        { db with messageReceipts }

section Extents

variable {crypto : Crypto} {moment : Moment} {db : Database}

theorem extent_registerAccountDevice (accountId rootPublicKey : Id32)
    (cert : DeviceCertificate) :
    Extent db (.registerAccountDevice accountId rootPublicKey cert)
      (registerAccountDevice crypto accountId rootPublicKey cert db).2 := by
  rcases registerAccountDevice_cases accountId rootPublicKey cert with hsame |
    ⟨known, devices, deviceCertificates, hknown, -, hnext⟩
  · rw [hsame]
    exact .registerAccountDevice db.accounts db.devices db.deviceCertificates
  · rw [hnext]
    obtain ⟨accounts, rfl⟩ := insertAccountOrIgnore_eq_ok hknown
    exact .registerAccountDevice accounts devices deviceCertificates

theorem extent_publishKeyPackage (deviceId packageId : Id16) (package : Bytes) :
    Extent db (.publishKeyPackage deviceId packageId package)
      (publishKeyPackage moment.now deviceId packageId package db).2 := by
  unfold publishKeyPackage
  split
  · exact .publishKeyPackage db.keyPackages
  split
  · exact .publishKeyPackage db.keyPackages
  split
  · exact .publishKeyPackage _
  · exact .publishKeyPackage db.keyPackages

theorem extent_storeRecoveryPackage (accountId recoveryIdentifier : Id32)
    (blob : Bytes) :
    Extent db (.storeRecoveryPackage accountId recoveryIdentifier blob)
      (storeRecoveryPackage accountId recoveryIdentifier blob db).2 := by
  unfold storeRecoveryPackage
  split_ifs
  · exact .storeRecoveryPackage db.accounts
  · exact .storeRecoveryPackage db.accounts
  · exact .storeRecoveryPackage db.accounts
  · exact .storeRecoveryPackage _

theorem extent_fetchKeyPackage (target : Id16) :
    Extent db (.fetchKeyPackage target) (fetchKeyPackage moment.now target db).2 := by
  unfold fetchKeyPackage
  dsimp only
  split
  · exact .fetchKeyPackage db.keyPackages
  · exact .fetchKeyPackage _

theorem perform_extent (crypto : Crypto) (moment : Moment) (db : Database)
    (call : Call) : Extent db call (call.perform crypto moment db) := by
  cases call with
  | registerAccountDevice accountId rootPublicKey cert =>
      exact extent_registerAccountDevice accountId rootPublicKey cert
  | beginChallenge deviceId =>
      obtain ⟨authChallenges, hextent⟩ := beginChallenge_extent deviceId
      rw [Call.perform, hextent]
      exact .beginChallenge authChallenges
  | completeChallenge challengeId signature =>
      obtain ⟨authChallenges, accessSessions, refreshSessions, hextent⟩ :=
        completeChallenge_extent challengeId signature
      rw [Call.perform, hextent]
      exact .completeChallenge authChallenges accessSessions refreshSessions
  | rotateRefresh deviceId refreshToken signature =>
      obtain ⟨accessSessions, refreshSessions, hextent⟩ :=
        rotateRefresh_extent deviceId refreshToken signature
      rw [Call.perform, hextent]
      exact .rotateRefresh accessSessions refreshSessions
  | uploadEvent event =>
      obtain ⟨groupEvents, eventSequence, hextent⟩ :=
        uploadEvent_extent moment.now event
      rw [Call.perform, hextent]
      exact .uploadEvent groupEvents eventSequence
  | publishKeyPackage deviceId packageId package =>
      exact extent_publishKeyPackage deviceId packageId package
  | createGroup groupId creator accountId =>
      obtain ⟨groups, groupMembers, hextent⟩ :=
        createGroup_extent groupId creator accountId
      rw [Call.perform, hextent]
      exact .createGroup groups groupMembers
  | applyMembershipOperation request =>
      obtain ⟨groupMembers, membershipOperations, hextent⟩ :=
        applyMembershipOperation_extent crypto moment.now request
      rw [Call.perform, hextent]
      exact .applyMembershipOperation groupMembers membershipOperations
  | uploadWelcome author target group welcomeId welcome =>
      obtain ⟨welcomeMailbox, hextent⟩ :=
        uploadWelcome_extent moment.now author target group welcomeId welcome
      rw [Call.perform, hextent]
      exact .uploadWelcome welcomeMailbox
  | storeRecoveryPackage accountId recoveryIdentifier blob =>
      exact extent_storeRecoveryPackage accountId recoveryIdentifier blob
  | fetchKeyPackage target => exact extent_fetchKeyPackage target
  | fetchWelcomes target limit => exact .fetchWelcomes _
  | recordReceipts deviceId eventIds receiptType =>
      obtain ⟨messageReceipts, hextent⟩ :=
        recordReceipts_extent deviceId eventIds receiptType
      rw [Call.perform, hextent]
      exact .recordReceipts messageReceipts

end Extents

end ResilientMessenger.RequestedCalls
