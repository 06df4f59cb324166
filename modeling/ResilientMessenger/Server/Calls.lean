import ResilientMessenger.Core.Runs
import ResilientMessenger.Server.Redelivery

/-!
# What a request can do to the database

Whatever a frame contains, dispatching it makes at most one backend call that
changes the database.  `dispatch_makes` says which calls there are, on whose
behalf they are made and how large their content can be.  Invariants of the
server are proved call by call and hold along every run of requests.
-/

namespace ResilientMessenger.Calls

open ResilientMessenger.ByteCodec
open ResilientMessenger.ByteReader (decodeWith)
open ResilientMessenger.Frames
open ResilientMessenger.Identity
open ResilientMessenger.Schema
open ResilientMessenger.Backend
open ResilientMessenger.Dispatch

/-- The backend calls that can change the database, with the arguments a
request passes. -/
inductive Call where
  | registerAccountDevice (accountId rootPublicKey : Id32)
      (cert : DeviceCertificate)
  | beginChallenge (deviceId : Id16)
  | completeChallenge (challengeId : Id16) (signature : FixedBytes 64)
  | rotateRefresh (deviceId : Id16) (refreshToken : Id32)
      (signature : FixedBytes 64)
  | uploadEvent (event : UploadedEvent)
  | publishKeyPackage (deviceId packageId : Id16) (package : Bytes)
  | createGroup (groupId creator : Id16) (accountId : Id32)
  | applyMembershipOperation (request : MembershipOperation)
  | uploadWelcome (author target group welcomeId : Id16) (welcome : Bytes)
  | storeRecoveryPackage (accountId recoveryIdentifier : Id32) (blob : Bytes)
  | fetchKeyPackage (target : Id16)
  | fetchWelcomes (target : Id16) (limit : ℤ)
  | recordReceipts (deviceId : Id16) (eventIds : List Id16) (receiptType : ℤ)

namespace Call

/-- The database after the call. -/
def perform (crypto : Crypto) (moment : Moment) (db : Database) :
    Call → Database
  | registerAccountDevice accountId rootPublicKey cert =>
      (Backend.registerAccountDevice crypto accountId rootPublicKey cert db).2
  | beginChallenge deviceId => (Backend.beginChallenge moment deviceId db).2
  | completeChallenge challengeId signature =>
      (Backend.completeChallenge crypto moment challengeId signature db).2
  | rotateRefresh deviceId refreshToken signature =>
      (Backend.rotateRefresh crypto moment deviceId refreshToken signature db).2
  | uploadEvent event => (Backend.uploadEvent moment.now event db).2
  | publishKeyPackage deviceId packageId package =>
      (Backend.publishKeyPackage moment.now deviceId packageId package db).2
  | createGroup groupId creator accountId =>
      (Backend.createGroup groupId creator accountId db).2
  | applyMembershipOperation request =>
      (Backend.applyMembershipOperation crypto moment.now request db).2
  | uploadWelcome author target group welcomeId welcome =>
      (Backend.uploadWelcome moment.now author target group welcomeId welcome db).2
  | storeRecoveryPackage accountId recoveryIdentifier blob =>
      (Backend.storeRecoveryPackage accountId recoveryIdentifier blob db).2
  | fetchKeyPackage target => (Backend.fetchKeyPackage moment.now target db).2
  | fetchWelcomes target limit =>
      (Backend.fetchWelcomes moment.now target limit db).2
  | recordReceipts deviceId eventIds receiptType =>
      (Backend.recordReceipts deviceId eventIds receiptType db).2

/-- The device on whose behalf the call is made, if it needs one. -/
def caller : Call → Option Id16
  | uploadEvent event => some event.authorDeviceId
  | publishKeyPackage deviceId _ _ => some deviceId
  | createGroup _ creator _ => some creator
  | applyMembershipOperation request => some request.authorDeviceId
  | uploadWelcome author _ _ _ _ => some author
  | fetchWelcomes target _ => some target
  | recordReceipts deviceId _ _ => some deviceId
  | _ => none

/-- What a request body must at least hold to pass this content: the access
token, the operation octet, the fields and the content. -/
def bodySize : Call → ℕ
  | uploadEvent event => 68 + event.ciphertext.length
  | publishKeyPackage _ _ package => 49 + package.length
  | uploadWelcome _ _ _ _ welcome => 81 + welcome.length
  | storeRecoveryPackage _ _ blob => 65 + blob.length
  | _ => 0

end Call

/-- The part of an upload body after the access token holds at least the
operation octet, the fields and the content. -/
def requestSize : UploadRequest → ℕ
  | .event _ _ _ _ ciphertext => 36 + ciphertext.length
  | .keyPackage _ package => 17 + package.length
  | .welcome _ _ _ welcome => 49 + welcome.length
  | .recovery _ blob => 33 + blob.length
  | _ => 0

/-- The body starts with a live access token of the device. -/
def SignedIn (crypto : Crypto) (now : Time) (body : Bytes) (db : Database)
    (deviceId : Id16) : Prop :=
  ∃ token unread, Body.array 32 body = .ok (token, unread) ∧
    authenticateAccess crypto now token db = .ok deviceId

/-- The database is left alone, or one call is made for a device whose token
the body carries, with content that fits into the body. -/
def Makes (crypto : Crypto) (moment : Moment) (body : Bytes) (db next : Database) :
    Prop :=
  next = db ∨ ∃ call : Call, call.bodySize ≤ body.length ∧
    (∀ deviceId ∈ call.caller, SignedIn crypto moment.now body db deviceId) ∧
    next = call.perform crypto moment db

section Handlers

variable {crypto : Crypto} {moment : Moment} {body : Bytes} {db : Database}

theorem makes_call (call : Call) (hsize : call.bodySize ≤ body.length)
    (hcaller : ∀ deviceId ∈ call.caller, SignedIn crypto moment.now body db deviceId) :
    Makes crypto moment body db (call.perform crypto moment db) :=
  .inr ⟨call, hsize, hcaller, rfl⟩

/-- A call without content that is made for nobody in particular. -/
theorem makes_anonymous (call : Call) (hsize : call.bodySize = 0)
    (hcaller : call.caller = none) :
    Makes crypto moment body db (call.perform crypto moment db) := by
  apply makes_call call
  · rw [hsize]
    exact Nat.zero_le body.length
  · rw [hcaller]
    intro deviceId hdevice
    cases hdevice

theorem makes_for (call : Call) {deviceId : Id16} (hsize : call.bodySize ≤ body.length)
    (hcaller : call.caller = some deviceId)
    (hsigned : SignedIn crypto moment.now body db deviceId) :
    Makes crypto moment body db (call.perform crypto moment db) := by
  apply makes_call call hsize
  rw [hcaller]
  intro other hother
  rw [← Option.some.inj hother]
  exact hsigned

theorem makes_reading {α β : Type} {result : Except ApiError α}
    {next : α → Except ApiError β × Database}
    (hnext : ∀ value, result = .ok value →
      Makes crypto moment body db (next value).2) :
    Makes crypto moment body db (reading result db next).2 := by
  cases result with
  | error failure => exact .inl rfl
  | ok value => exact hnext value rfl

/-- Building the answer does not change the database. -/
theorem andThen_answer {α β : Type} {outcome : Except ApiError α × Database}
    {next : α → Database → Except ApiError β × Database}
    (hnext : ∀ value db, (next value db).2 = db) :
    (andThen outcome next).2 = outcome.2 := by
  obtain ⟨failure | value, after⟩ := outcome
  · rfl
  · exact hnext value after

theorem makes_authenticated {next : Id16 → Bytes → Handler}
    (hnext : ∀ deviceId unread, body.length = 32 + unread.length →
      SignedIn crypto moment.now body db deviceId →
        Makes crypto moment body db (next deviceId unread db).2) :
    Makes crypto moment body db
      (authenticated crypto moment.now body next db).2 := by
  apply makes_reading
  rintro ⟨token, unread⟩ htoken
  apply makes_reading
  intro deviceId hdevice
  have hbody := ByteReader.array_eq_ok.mp htoken
  apply hnext deviceId unread _ ⟨token, unread, htoken, hdevice⟩
  rw [hbody, List.length_append, List.Vector.toList_length]

theorem makes_clientHello :
    Makes crypto moment body db (clientHello crypto body db).2 := by
  apply makes_reading
  rintro ⟨accountId, rootPublicKey, cert⟩ -
  rw [andThen_answer fun _ _ => rfl]
  exact makes_anonymous (.registerAccountDevice accountId rootPublicKey cert) rfl rfl

theorem makes_authChallenge :
    Makes crypto moment body db (authChallenge moment body db).2 := by
  apply makes_reading
  rintro ⟨deviceId, unread⟩ -
  rw [andThen_answer]
  · exact makes_anonymous (.beginChallenge deviceId) rfl rfl
  · intro challenge after
    cases Body.finish unread <;> rfl

theorem makes_authResponse :
    Makes crypto moment body db (authResponse crypto moment body db).2 := by
  unfold authResponse
  rw [andThen_answer fun _ _ => rfl]
  split
  · apply makes_reading
    rintro ⟨challengeId, signature⟩ -
    exact makes_anonymous (.completeChallenge challengeId signature) rfl rfl
  · split
    · apply makes_reading
      rintro ⟨deviceId, refreshToken, signature⟩ -
      exact makes_anonymous (.rotateRefresh deviceId refreshToken signature) rfl rfl
    · exact .inl rfl

theorem array_length {length : ℕ} {input unread : Bytes}
    {value : FixedBytes length} (hread : Body.array length input = .ok (value, unread)) :
    input.length = length + unread.length := by
  rw [ByteReader.array_eq_ok.mp hread, List.length_append,
    List.Vector.toList_length]

theorem i16_length {input unread : Bytes} {value : ℤ}
    (hread : Body.i16 input = .ok (value, unread)) :
    input.length = 2 + unread.length := by
  simp only [Body.i16, ByteReader.bind_eq_ok, ByteReader.word_eq_ok,
    ByteReader.pure_eq_ok, Prod.mk.injEq] at hread
  obtain ⟨octets, _, ⟨-, rfl⟩, -, rfl⟩ := hread
  rw [List.length_append, length_toBigEndian]

theorem optionalId_length {input unread : Bytes} {value : Option Id16}
    (hread : Body.optionalId input = .ok (value, unread)) :
    1 + unread.length ≤ input.length := by
  simp only [Body.optionalId, Body.u8, ByteReader.bind_eq_ok,
    ByteReader.byte_eq_ok] at hread
  obtain ⟨octet, body, rfl, hbody⟩ := hread
  rw [List.length_cons, Nat.add_comm]
  apply Nat.add_le_add_right
  split at hbody
  · cases hbody
    exact le_rfl
  · simp only [ByteReader.bind_eq_ok, ByteReader.pure_eq_ok,
      Prod.mk.injEq] at hbody
    obtain ⟨id, _, hid, -, rfl⟩ := hbody
    rw [array_length hid]
    exact Nat.le_add_left _ _
  · cases hbody

theorem rest_eq_ok {input value unread : Bytes}
    (hread : (ByteReader.rest : Body Bytes) input = .ok (value, unread)) :
    value = input := by
  cases hread
  rfl

/-- The content of an upload is what is left of the body after its fields. -/
theorem fields_size {operation : UInt8} {request : UploadRequest}
    {input unread : Bytes}
    (hfields : UploadRequest.fields operation input = .ok (request, unread)) :
    requestSize request ≤ 1 + input.length := by
  unfold UploadRequest.fields at hfields
  split at hfields <;>
    simp only [ByteReader.bind_eq_ok, ByteReader.pure_eq_ok,
      ByteReader.throw_eq_ok, Prod.mk.injEq] at hfields
  · obtain ⟨_, _, hgroup, _, _, hevent, _, _, hkind, _, _, hcorrelation, _, _, hrest,
      rfl, -⟩ := hfields
    rw [requestSize, rest_eq_ok hrest, array_length hgroup, array_length hevent,
      i16_length hkind]
    have hoctet := optionalId_length hcorrelation
    omega
  · obtain ⟨_, _, hpackage, _, _, hrest, rfl, -⟩ := hfields
    rw [requestSize, rest_eq_ok hrest, array_length hpackage]
    omega
  · obtain ⟨_, _, -, _, _, -, rfl, -⟩ := hfields
    exact Nat.zero_le _
  · obtain ⟨_, _, -, _, _, -, _, _, -, _, _, -, _, _, -, _, _, -, _, _, -, rfl, -⟩ :=
      hfields
    exact Nat.zero_le _
  · obtain ⟨_, _, htarget, _, _, hgroup, _, _, hwelcome, _, _, hrest, rfl, -⟩ :=
      hfields
    rw [requestSize, rest_eq_ok hrest, array_length htarget, array_length hgroup,
      array_length hwelcome]
    omega
  · obtain ⟨_, _, hidentifier, _, _, hrest, rfl, -⟩ := hfields
    rw [requestSize, rest_eq_ok hrest, array_length hidentifier]
    omega

theorem reader_size {request : UploadRequest} {input : Bytes}
    (hread : decodeWith UploadRequest.reader input = .ok request) :
    requestSize request ≤ input.length := by
  obtain ⟨unread, hreader⟩ := ByteReader.decodeWith_eq_ok.mp hread
  simp only [UploadRequest.reader, ByteReader.bind_eq_ok] at hreader
  obtain ⟨operation, body, hoctet, hfields⟩ := hreader
  rw [ByteReader.byte_eq_ok.mp hoctet, List.length_cons, Nat.add_comm]
  exact fields_size hfields

theorem makes_performUpload {request : UploadRequest} {author : Id16}
    (clientMessageId : Id16) (hsize : 32 + requestSize request ≤ body.length)
    (hsigned : SignedIn crypto moment.now body db author) :
    Makes crypto moment body db
      (performUpload crypto moment.now clientMessageId author request db).2 := by
  cases request with
  | event groupId eventId eventKind correlationId ciphertext =>
      simp only [performUpload]
      rw [andThen_answer fun _ _ => rfl]
      refine makes_for (.uploadEvent
        ⟨eventId, groupId, author, clientMessageId, eventKind, ciphertext,
          correlationId⟩) ?_ rfl hsigned
      simp only [Call.bodySize, requestSize] at hsize ⊢
      omega
  | keyPackage packageId package =>
      simp only [performUpload]
      rw [andThen_answer fun _ _ => rfl]
      refine makes_for (.publishKeyPackage author packageId package) ?_ rfl hsigned
      simp only [Call.bodySize, requestSize] at hsize ⊢
      omega
  | group groupId =>
      apply makes_reading
      intro accountId _
      rw [andThen_answer fun _ _ => rfl]
      exact makes_for (.createGroup groupId author accountId) (Nat.zero_le body.length) rfl
        hsigned
  | membership correlationId groupId targetDeviceId role remove signature =>
      simp only [performUpload]
      rw [andThen_answer fun _ _ => rfl]
      exact makes_for (.applyMembershipOperation
        ⟨correlationId, groupId, author, targetDeviceId, role, remove, signature⟩)
        (Nat.zero_le body.length) rfl hsigned
  | welcome target group welcomeId welcome =>
      simp only [performUpload]
      rw [andThen_answer fun _ _ => rfl]
      refine makes_for (.uploadWelcome author target group welcomeId welcome) ?_ rfl
        hsigned
      simp only [Call.bodySize, requestSize] at hsize ⊢
      omega
  | recovery recoveryIdentifier blob =>
      apply makes_reading
      intro accountId _
      rw [andThen_answer fun _ _ => rfl]
      apply makes_call (.storeRecoveryPackage accountId recoveryIdentifier blob)
      · simp only [Call.bodySize, requestSize] at hsize ⊢
        omega
      · simp [Call.caller]

theorem makes_uploadEnvelope (clientMessageId : Id16) :
    Makes crypto moment body db
      (uploadEnvelope crypto moment.now clientMessageId body db).2 := by
  apply makes_authenticated
  intro author unread hlength hsigned
  apply makes_reading
  intro request hrequest
  rw [andThen_answer fun _ _ => rfl]
  apply makes_performUpload clientMessageId _ hsigned
  have hsize := reader_size hrequest
  omega

theorem makes_syncRequest :
    Makes crypto moment body db (syncRequest crypto moment.now body db).2 := by
  apply makes_authenticated
  intro deviceId unread _ hsigned
  apply makes_reading
  intro request _
  cases request with
  | events groupId after limit =>
      apply makes_reading
      intro events _
      exact .inl rfl
  | keyPackage target =>
      have hfetch : (performSync moment.now deviceId (.keyPackage target) db).2 =
          (Call.fetchKeyPackage target).perform crypto moment db := by
        simp only [performSync, Call.perform]
        split <;> simp_all
      rw [hfetch]
      exact makes_anonymous (.fetchKeyPackage target) rfl rfl
  | welcomes limit =>
      exact makes_for (.fetchWelcomes deviceId limit) (Nat.zero_le body.length) rfl hsigned

theorem makes_receiptBatch (receiptType : ℤ) :
    Makes crypto moment body db
      (receiptBatch crypto moment.now receiptType body db).2 := by
  apply makes_authenticated
  intro deviceId unread _ hsigned
  apply makes_reading
  intro eventIds _
  rw [andThen_answer fun _ _ => rfl]
  exact makes_for (.recordReceipts deviceId eventIds receiptType) (Nat.zero_le body.length)
    rfl hsigned

theorem makes_relayDirectoryRequest :
    Makes crypto moment body db (relayDirectoryRequest body db).2 := by
  apply makes_reading
  intro recoveryIdentifier _
  cases fetchRecoveryPackage recoveryIdentifier db <;> exact .inl rfl

theorem route_makes {frame : TransportFrame} {kind : FrameType}
    {handler : Handler} (hroute : route crypto moment frame = some (kind, handler)) :
    Makes crypto moment frame.body db (handler db).2 := by
  unfold route at hroute
  split at hroute <;> cases hroute
  · exact makes_clientHello
  · exact makes_authChallenge
  · exact makes_authResponse
  · exact makes_uploadEnvelope frame.clientMessageId
  · exact makes_syncRequest
  · exact makes_relayDirectoryRequest
  · exact makes_receiptBatch 1
  · exact makes_receiptBatch 2
  · exact .inl rfl

/-- A request leaves the database alone or makes one call. -/
theorem dispatch_makes (crypto : Crypto) (moment : Moment) (db : Database)
    (frame : TransportFrame) :
    Makes crypto moment frame.body db
      (dispatch crypto moment frame db).2 := by
  unfold dispatch
  cases hroute : route crypto moment frame with
  | none => exact .inl rfl
  | some routed =>
      dsimp only
      rw [andThen_answer fun _ _ => rfl]
      exact route_makes hroute

end Handlers

/-! ## Serving requests one after the other -/

/-- A frame and the moment it is dispatched. -/
structure Request where
  moment : Moment
  frame : TransportFrame

/-- The database after one request. -/
def serve (crypto : Crypto) (db : Database) (request : Request) : Database :=
  (dispatch crypto request.moment request.frame db).2

end ResilientMessenger.Calls
