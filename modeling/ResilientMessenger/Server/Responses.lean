import ResilientMessenger.Server.Effects

/-!
# Answers that do not fit into a frame

The HTTP handler writes the encoding of an answer, and nothing at all when the
answer does not encode.  An answer is too large for its frame when its body is
longer than `maxAnswerSize`, and by then the call behind it is committed.  Most
answers are bounded by what a request can upload, which is an invariant of the
database; a page of events or Welcomes is not.  `answered_iff_page_fits` says
that the pages are the only exception.
-/

namespace ResilientMessenger.Responses

open ResilientMessenger.ByteCodec
open ResilientMessenger.ByteReader (decodeWith)
open ResilientMessenger.Cbor
open ResilientMessenger.Frames
open ResilientMessenger.Identity
open ResilientMessenger.Schema
open ResilientMessenger.Backend
open ResilientMessenger.Dispatch
open ResilientMessenger.Transaction
open ResilientMessenger.Calls
open ResilientMessenger.Effects
open ResilientMessenger.Redelivery
open ResilientMessenger.Runs

/-- The bytes written for an answer, `encode().unwrap_or_default()`. -/
def cborResponse (frame : TransportFrame) : Bytes :=
  match frame.encode with
  | .ok body => body
  | .error _ => []

/-- The bytes of a request and the moment they arrive. -/
structure Packet where
  moment : Moment
  input : Bytes

/-- The database after a request, which is dispatched only if it decodes. -/
def receive (crypto : Crypto) (db : Database) (packet : Packet) : Database :=
  match TransportFrame.decode packet.input with
  | .ok frame => serve crypto db ⟨packet.moment, frame⟩
  | .error _ => db

/-- If the request is carried out, the client reads its answer from the bytes it
is sent. -/
def Answered (crypto : Crypto) (db : Database) (packet : Packet) : Prop :=
  ∀ frame response, TransportFrame.decode packet.input = .ok frame →
    (dispatch crypto packet.moment frame db).1 = .ok response →
      TransportFrame.decode (cborResponse response) = .ok response

/-! ## The pages of a request -/

/-- The largest body an answer can carry: the frame around it takes 25 octets. -/
def maxAnswerSize : ℕ := 65511

/-- The events a request asks for. -/
def eventPage (now : Time) (deviceId : Id16) (groupId : Option Id16)
    (after limit : ℤ) (db : Database) : List EventRow :=
  match groupId with
  | some groupId => page now after limit (fun row => row.groupId = groupId) db
  | none => page now after limit (fun row => activeIn db deviceId row.groupId) db

/-- The Welcomes waiting for the device, up to the limit. -/
def welcomePage (now : Time) (deviceId : Id16) (limit : ℤ) (db : Database) :
    List WelcomeRow :=
  Paging.pageOf WelcomeRow.expiresAt (batchSize limit)
    (db.welcomeMailbox.rows.filter fun row =>
      row.targetDeviceId = deviceId ∧ row.consumedAt.isNone ∧ now < row.expiresAt)

/-- The octets the requested page takes; a group the device is not active in has
no page. -/
def pageSize (now : Time) (deviceId : Id16) (db : Database) : SyncRequest → ℕ
  | .events groupId after limit =>
      if groupId.all (activeIn db deviceId) then
        2 + ((eventPage now deviceId groupId after limit db).map fun row =>
          30 + row.ciphertext.length).sum
      else 0
  | .keyPackage _ => 0
  | .welcomes limit =>
      2 + ((welcomePage now deviceId limit db).map fun row =>
        36 + row.welcome.length).sum

/-- If the request asks for a page, the page fits into an answer. -/
def PageFits (crypto : Crypto) (db : Database) (packet : Packet) : Prop :=
  ∀ frame token unread deviceId request,
    TransportFrame.decode packet.input = .ok frame → frame.kind = .syncRequest →
      Body.array 32 frame.body = .ok (token, unread) →
      authenticateAccess crypto packet.moment.now token db = .ok deviceId →
      decodeWith SyncRequest.reader unread = .ok request →
        pageSize packet.moment.now deviceId db request ≤ maxAnswerSize

/-! ## The size of a frame -/

theorem length_major (m : UInt8) (n : ℕ) :
    (Encoder.major m n).length =
      if n < 24 then 1 else if n ≤ 255 then 2 else if n ≤ 65535 then 3 else 5 := by
  unfold Encoder.major
  split_ifs <;> simp

theorem length_items (frame : TransportFrame) :
    frame.items.length = 20 + (Encoder.uint frame.version.toNat).length +
      (Encoder.uint frame.ttlSeconds.toNat).length +
        (Encoder.bytes frame.body).length := by
  have hkind := frame.kind.code_lt
  have hcode : (Encoder.uint frame.kind.code).length = 1 := by
    rw [Encoder.uint, length_major, if_pos hkind]
  have hid : (Encoder.bytes frame.clientMessageId.toList).length = 17 := by
    simp [Encoder.bytes, length_major]
  have harray : (Encoder.array 6).length = 1 := by rfl
  have htag : (Encoder.uint 1).length = 1 := by rfl
  simp only [TransportFrame.items, List.length_append, hcode, hid, harray, htag]
  omega

/-- A body of an accepted frame is never larger than that of an answer. -/
theorem body_length_le {frame : TransportFrame} {input : Bytes}
    (hdecode : TransportFrame.decode input = .ok frame) :
    frame.body.length ≤ maxAnswerSize := by
  obtain ⟨-, hencode⟩ := frame_decode_eq_ok.mp hdecode
  obtain ⟨-, hitems, -⟩ := frame_encode_eq_ok.mp hencode
  have hversion : 1 ≤ (Encoder.uint frame.version.toNat).length := by
    rw [Encoder.uint, length_major]
    split_ifs <;> omega
  have httl : 1 ≤ (Encoder.uint frame.ttlSeconds.toNat).length := by
    rw [Encoder.uint, length_major]
    split_ifs <;> omega
  rw [length_items, Encoder.bytes, List.length_append, length_major] at hitems
  unfold maxFrameSize at hitems
  unfold maxAnswerSize
  split_ifs at hitems <;> omega

/-- An answer reaches the client exactly when its body is small enough. -/
theorem decode_cborResponse {frame : TransportFrame} (hversion : frame.version = 1)
    (httl : frame.ttlSeconds = 0) :
    TransportFrame.decode (cborResponse frame) = .ok frame ↔
      frame.body.length ≤ maxAnswerSize := by
  constructor
  · exact body_length_le
  · intro hbody
    have hitems : frame.items.length ≤ maxFrameSize := by
      rw [length_items, hversion, httl, Encoder.bytes, List.length_append,
        length_major]
      have hone : (Encoder.uint (1 : UInt16).toNat).length = 1 := by rfl
      have hzero : (Encoder.uint (0 : UInt32).toNat).length = 1 := by rfl
      rw [hone, hzero]
      unfold maxAnswerSize at hbody
      unfold maxFrameSize
      split_ifs <;> omega
    have hencode : frame.encode = .ok frame.items :=
      frame_encode_eq_ok.mpr ⟨by rw [httl]; exact Nat.zero_le _, hitems, rfl⟩
    rw [frame_decode_eq_ok, cborResponse, hencode]
    exact ⟨hversion, rfl⟩

/-! ## What the database hands out -/

/-- Every stored key package and recovery package fits into an answer. -/
structure Bounded (db : Database) : Prop where
  packages : ∀ row ∈ db.keyPackages.rows, 49 + row.package.length ≤ maxAnswerSize
  blobs : ∀ account ∈ db.accounts.rows, ∀ blob ∈ account.recoveryBlob,
    65 + blob.length ≤ maxAnswerSize

/-- Key packages and accounts are as before. -/
def Untouched (db next : Database) : Prop :=
  next.keyPackages = db.keyPackages ∧ next.accounts = db.accounts

section Calls

variable {crypto : Crypto} {moment : Moment} {now : Time} {db next : Database}

theorem bounded_untouched (hbounded : Bounded db) (hsame : Untouched db next) :
    Bounded next where
  packages := by rw [hsame.1]; exact hbounded.packages
  blobs := by rw [hsame.2]; exact hbounded.blobs

theorem untouched_beginChallenge (deviceId : Id16) :
    Untouched db (beginChallenge moment deviceId db).2 := by
  obtain ⟨authChallenges, hextent⟩ := beginChallenge_extent deviceId
  rw [hextent]
  exact ⟨rfl, rfl⟩

theorem untouched_completeChallenge (challengeId : Id16)
    (signature : FixedBytes 64) :
    Untouched db (completeChallenge crypto moment challengeId signature db).2 := by
  obtain ⟨authChallenges, accessSessions, refreshSessions, hextent⟩ :=
    completeChallenge_extent challengeId signature
  rw [hextent]
  exact ⟨rfl, rfl⟩

theorem untouched_rotateRefresh (deviceId : Id16) (refreshToken : Id32)
    (signature : FixedBytes 64) :
    Untouched db
      (rotateRefresh crypto moment deviceId refreshToken signature db).2 := by
  obtain ⟨accessSessions, refreshSessions, hextent⟩ :=
    rotateRefresh_extent deviceId refreshToken signature
  rw [hextent]
  exact ⟨rfl, rfl⟩

theorem untouched_uploadEvent (event : UploadedEvent) :
    Untouched db (uploadEvent now event db).2 := by
  obtain ⟨groupEvents, eventSequence, hextent⟩ := uploadEvent_extent now event
  rw [hextent]
  exact ⟨rfl, rfl⟩

theorem untouched_createGroup (groupId creator : Id16) (accountId : Id32) :
    Untouched db (createGroup groupId creator accountId db).2 := by
  obtain ⟨groups, groupMembers, hextent⟩ := createGroup_extent groupId creator accountId
  rw [hextent]
  exact ⟨rfl, rfl⟩

theorem untouched_applyMembershipOperation (request : MembershipOperation) :
    Untouched db (applyMembershipOperation crypto now request db).2 := by
  obtain ⟨groupMembers, membershipOperations, hextent⟩ :=
    applyMembershipOperation_extent crypto now request
  rw [hextent]
  exact ⟨rfl, rfl⟩

theorem untouched_uploadWelcome (author target group welcomeId : Id16)
    (welcome : Bytes) :
    Untouched db (uploadWelcome now author target group welcomeId welcome db).2 := by
  obtain ⟨welcomeMailbox, hextent⟩ :=
    uploadWelcome_extent now author target group welcomeId welcome
  rw [hextent]
  exact ⟨rfl, rfl⟩

theorem untouched_recordReceipts (deviceId : Id16) (eventIds : List Id16)
    (receiptType : ℤ) :
    Untouched db (recordReceipts deviceId eventIds receiptType db).2 := by
  obtain ⟨messageReceipts, hextent⟩ :=
    recordReceipts_extent deviceId eventIds receiptType
  rw [hextent]
  exact ⟨rfl, rfl⟩

/-- A new account has no recovery package. -/
theorem bounded_registerAccountDevice (hbounded : Bounded db)
    (accountId rootPublicKey : Id32) (cert : DeviceCertificate) :
    Bounded (registerAccountDevice crypto accountId rootPublicKey cert db).2 := by
  rcases registerAccountDevice_cases accountId rootPublicKey cert with hsame |
    ⟨known, devices, deviceCertificates, hknown, -, hnext⟩
  · rw [hsame]
    exact hbounded
  rw [hnext]
  have haccounts : ∀ account ∈ known.accounts.rows,
      account ∈ db.accounts.rows ∨ account.recoveryBlob = none := by
    intro account haccount
    unfold Database.insertAccountOrIgnore at hknown
    split at hknown
    · cases pure_eq_ok.mp hknown
      exact .inl haccount
    · obtain ⟨accounts, hinsert, hsame⟩ := bind_eq_ok.mp hknown
      cases pure_eq_ok.mp hsame
      have hrows := (Table.insert?_eq_some_iff.mp
        (Database.insertInto_eq_ok.mp hinsert).2).2
      simp only [hrows, List.mem_append, List.mem_singleton] at haccount
      rcases haccount with hold | rfl
      · exact .inl hold
      · exact .inr rfl
  obtain ⟨accounts, rfl⟩ := insertAccountOrIgnore_eq_ok hknown
  refine ⟨hbounded.packages, ?_⟩
  intro account haccount blob hblob
  rcases haccounts account haccount with hold | hnone
  · exact hbounded.blobs account hold blob hblob
  · rw [hnone] at hblob
    cases hblob

theorem bounded_publishKeyPackage (hbounded : Bounded db)
    {deviceId packageId : Id16} {package : Bytes}
    (hsize : 49 + package.length ≤ maxAnswerSize) :
    Bounded (publishKeyPackage now deviceId packageId package db).2 := by
  unfold publishKeyPackage
  split
  · exact hbounded
  split
  · exact hbounded
  split
  case h_1 keyPackages hinsert =>
    refine ⟨?_, hbounded.blobs⟩
    intro row hrow
    simp only [(Table.insert?_eq_some_iff.mp hinsert).2, List.mem_append,
      List.mem_singleton] at hrow
    rcases hrow with hold | rfl
    · exact hbounded.packages row hold
    · exact hsize
  case h_2 => exact hbounded

theorem bounded_storeRecoveryPackage (hbounded : Bounded db)
    {accountId recoveryIdentifier : Id32} {blob : Bytes}
    (hsize : 65 + blob.length ≤ maxAnswerSize) :
    Bounded (storeRecoveryPackage accountId recoveryIdentifier blob db).2 := by
  unfold storeRecoveryPackage
  split_ifs
  · exact hbounded
  · exact hbounded
  · exact hbounded
  · refine ⟨hbounded.packages, ?_⟩
    intro account haccount stored hstored
    simp only [Table.modify, Table.update, List.mem_map] at haccount
    obtain ⟨old, hold, rfl⟩ := haccount
    split at hstored
    · cases hstored
      exact hsize
    · exact hbounded.blobs old hold stored hstored

theorem bounded_fetchKeyPackage (hbounded : Bounded db) (target : Id16) :
    Bounded (fetchKeyPackage now target db).2 := by
  unfold fetchKeyPackage
  dsimp only
  split
  · exact hbounded
  · refine ⟨?_, hbounded.blobs⟩
    intro row hrow
    simp only [Table.modify, Table.update, List.mem_map] at hrow
    obtain ⟨old, hold, rfl⟩ := hrow
    split <;> exact hbounded.packages old hold

theorem bounded_perform (hbounded : Bounded db) {call : Call}
    (hsize : call.bodySize ≤ maxAnswerSize) :
    Bounded (call.perform crypto moment db) := by
  cases call with
  | registerAccountDevice accountId rootPublicKey cert =>
      exact bounded_registerAccountDevice hbounded accountId rootPublicKey cert
  | beginChallenge deviceId =>
      exact bounded_untouched hbounded (untouched_beginChallenge deviceId)
  | completeChallenge challengeId signature =>
      exact bounded_untouched hbounded
        (untouched_completeChallenge challengeId signature)
  | rotateRefresh deviceId refreshToken signature =>
      exact bounded_untouched hbounded
        (untouched_rotateRefresh deviceId refreshToken signature)
  | uploadEvent event =>
      exact bounded_untouched hbounded (untouched_uploadEvent event)
  | publishKeyPackage deviceId packageId package =>
      exact bounded_publishKeyPackage hbounded hsize
  | createGroup groupId creator accountId =>
      exact bounded_untouched hbounded
        (untouched_createGroup groupId creator accountId)
  | applyMembershipOperation request =>
      exact bounded_untouched hbounded (untouched_applyMembershipOperation request)
  | uploadWelcome author target group welcomeId welcome =>
      exact bounded_untouched hbounded
        (untouched_uploadWelcome author target group welcomeId welcome)
  | storeRecoveryPackage accountId recoveryIdentifier blob =>
      exact bounded_storeRecoveryPackage hbounded hsize
  | fetchKeyPackage target => exact bounded_fetchKeyPackage hbounded target
  | fetchWelcomes target limit => exact bounded_untouched hbounded ⟨rfl, rfl⟩
  | recordReceipts deviceId eventIds receiptType =>
      exact bounded_untouched hbounded
        (untouched_recordReceipts deviceId eventIds receiptType)

end Calls

theorem bounded_receive {crypto : Crypto} {db : Database} (hbounded : Bounded db)
    (packet : Packet) : Bounded (receive crypto db packet) := by
  unfold receive
  cases hdecode : TransportFrame.decode packet.input with
  | error failure => exact hbounded
  | ok frame =>
      have hbody := body_length_le hdecode
      rcases dispatch_makes crypto packet.moment db frame with hsame |
        ⟨call, hsize, -, hcall⟩
      · simp only [serve, hsame]
        exact hbounded
      · simp only [serve, hcall]
        exact bounded_perform hbounded (hsize.trans hbody)

theorem bounded_run (crypto : Crypto) (packets : List Packet) :
    Bounded (run (receive crypto) Database.migrated packets) := by
  apply run_invariant
  · intro db packet hbounded
    exact bounded_receive hbounded packet
  · exact ⟨by simp [Database.migrated, Table.empty],
      by simp [Database.migrated, Table.empty]⟩

/-! ## The size of an answer -/

theorem andThen_fst_eq_ok {α β : Type} {outcome : Except ApiError α × Database}
    {next : α → Database → Except ApiError β × Database} {value : β} :
    (andThen outcome next).1 = .ok value ↔
      ∃ intermediate db, outcome = (.ok intermediate, db) ∧
        (next intermediate db).1 = .ok value := by
  obtain ⟨failure | intermediate, db⟩ := outcome <;> simp [andThen]

theorem reading_fst_eq_ok {α β : Type} {result : Except ApiError α}
    {db : Database} {next : α → Except ApiError β × Database} {value : β} :
    (reading result db next).1 = .ok value ↔
      ∃ intermediate, result = .ok intermediate ∧
        (next intermediate).1 = .ok value := by
  cases result <;> simp [reading]

theorem length_encodeEvents (rows : List EventRow) :
    ((rows.map SyncEvent.ofRow).flatMap encodeEvent).length =
      (rows.map fun row => 30 + row.ciphertext.length).sum := by
  induction rows with
  | nil => rfl
  | cons row rows ih =>
      simp only [List.map_cons, List.flatMap_cons, List.length_append, ih,
        List.sum_cons, encodeEvent, SyncEvent.ofRow, length_toBigEndian,
        List.Vector.toList_length]

theorem length_encodeWelcomes (rows : List WelcomeRow) :
    (rows.flatMap encodeWelcome).length =
      (rows.map fun row => 36 + row.welcome.length).sum := by
  induction rows with
  | nil => rfl
  | cons row rows ih =>
      simp only [List.map_cons, List.flatMap_cons, List.length_append, ih,
        List.sum_cons, encodeWelcome, length_toBigEndian,
        List.Vector.toList_length]

section Answers

variable {crypto : Crypto} {moment : Moment} {now : Time} {db : Database}
variable {body answer : Bytes}

theorem syncGroup_eq_ok {deviceId groupId : Id16} {after limit : ℤ}
    {events : List SyncEvent} :
    syncGroup now deviceId groupId after limit db = .ok events ↔
      activeIn db deviceId groupId = true ∧
        events = (eventPage now deviceId (some groupId) after limit db).map
          SyncEvent.ofRow := by
  unfold syncGroup
  constructor
  · intro hsync
    obtain ⟨_, hactive, hevents⟩ := bind_eq_ok.mp hsync
    exact ⟨assertActiveMember_eq_ok hactive, (pure_eq_ok.mp hevents).symm⟩
  · rintro ⟨hactive, rfl⟩
    have hassert : assertActiveMember groupId deviceId db = .ok () := by
      unfold assertActiveMember
      unfold activeIn at hactive
      rw [if_pos hactive]
    rw [hassert]
    rfl

/-- A page is answered with its own size. -/
theorem performSync_events {deviceId : Id16} {groupId : Option Id16}
    {after limit : ℤ} :
    (performSync now deviceId (.events groupId after limit) db).1 = .ok answer →
      answer.length = pageSize now deviceId db (.events groupId after limit) := by
  intro hanswer
  simp only [performSync, reading_fst_eq_ok] at hanswer
  obtain ⟨events, hevents, hencoded⟩ := hanswer
  cases hencoded
  cases groupId with
  | none =>
      cases hevents
      have hlength := length_encodeEvents (eventPage now deviceId none after limit db)
      simp only [pageSize, Option.all_none, if_true, List.length_cons]
      unfold syncGlobal
      rw [← hlength]
      simp only [eventPage]
      omega
  | some groupId =>
      obtain ⟨hactive, rfl⟩ := syncGroup_eq_ok.mp hevents
      simp only [pageSize, Option.all_some, hactive, if_true, List.length_cons,
        length_encodeEvents]
      omega

theorem performSync_welcomes {deviceId : Id16} {limit : ℤ} :
    (performSync now deviceId (.welcomes limit) db).1 = .ok answer →
      answer.length = pageSize now deviceId db (.welcomes limit) := by
  intro hanswer
  cases hanswer
  have hlength := length_encodeWelcomes (welcomePage now deviceId limit db)
  simp only [pageSize, List.length_cons]
  rw [← hlength]
  simp only [welcomePage]
  omega

theorem performSync_keyPackage (hbounded : Bounded db) {deviceId target : Id16} :
    (performSync now deviceId (.keyPackage target) db).1 = .ok answer →
      answer.length ≤ maxAnswerSize := by
  intro hanswer
  simp only [performSync] at hanswer
  split at hanswer
  case h_1 packageId package after hfetch =>
    cases hanswer
    unfold fetchKeyPackage at hfetch
    dsimp only at hfetch
    split at hfetch
    · cases hfetch
    case h_2 row hrow =>
      cases hfetch
      have hmem := (List.mem_insertionSort _).mp (List.mem_of_head? hrow)
      have hsize := hbounded.packages row (List.mem_of_mem_filter hmem)
      simp only [List.length_cons, List.length_append, List.Vector.toList_length]
      omega
  case h_2 =>
    cases hanswer
    decide

/-- A page that is too large is answered all the same. -/
theorem performSync_of_large {deviceId : Id16} {request : SyncRequest}
    (hlarge : maxAnswerSize < pageSize now deviceId db request) :
    ∃ answer, (performSync now deviceId request db).1 = .ok answer ∧
      answer.length = pageSize now deviceId db request := by
  cases request with
  | events groupId after limit =>
      have hok : ∃ answer, (performSync now deviceId (.events groupId after limit)
          db).1 = .ok answer := by
        simp only [performSync, reading_fst_eq_ok]
        cases groupId with
        | none => exact ⟨_, _, rfl, rfl⟩
        | some groupId =>
            have hactive : activeIn db deviceId groupId = true := by
              by_contra hinactive
              simp [pageSize, hinactive] at hlarge
            exact ⟨_, _, syncGroup_eq_ok.mpr ⟨hactive, rfl⟩, rfl⟩
      obtain ⟨answer, hanswer⟩ := hok
      exact ⟨answer, hanswer, performSync_events hanswer⟩
  | keyPackage target => simp [pageSize] at hlarge
  | welcomes limit => exact ⟨_, rfl, performSync_welcomes rfl⟩

theorem syncRequest_fst_eq_ok :
    (syncRequest crypto now body db).1 = .ok answer ↔
      ∃ token unread deviceId request,
        Body.array 32 body = .ok (token, unread) ∧
        authenticateAccess crypto now token db = .ok deviceId ∧
        decodeWith SyncRequest.reader unread = .ok request ∧
        (performSync now deviceId request db).1 = .ok answer := by
  simp only [syncRequest, authenticated, reading_fst_eq_ok, Prod.exists]
  constructor
  · rintro ⟨token, unread, htoken, deviceId, hdevice, request, hrequest, hanswer⟩
    exact ⟨token, unread, deviceId, request, htoken, hdevice, hrequest, hanswer⟩
  · rintro ⟨token, unread, deviceId, request, htoken, hdevice, hrequest, hanswer⟩
    exact ⟨token, unread, htoken, deviceId, hdevice, request, hrequest, hanswer⟩

theorem small_clientHello (hanswer : (clientHello crypto body db).1 = .ok answer) :
    answer.length ≤ maxAnswerSize := by
  simp only [clientHello, reading_fst_eq_ok, andThen_fst_eq_ok] at hanswer
  obtain ⟨_, -, _, _, -, hencoded⟩ := hanswer
  cases hencoded
  decide

theorem small_authChallenge
    (hanswer : (authChallenge moment body db).1 = .ok answer) :
    answer.length ≤ maxAnswerSize := by
  simp only [authChallenge, reading_fst_eq_ok, andThen_fst_eq_ok] at hanswer
  obtain ⟨_, -, challenge, _, -, _, -, hencoded⟩ := hanswer
  cases hencoded
  simp [maxAnswerSize]

theorem small_authResponse
    (hanswer : (authResponse crypto moment body db).1 = .ok answer) :
    answer.length ≤ maxAnswerSize := by
  simp only [authResponse, andThen_fst_eq_ok] at hanswer
  obtain ⟨tokens, _, -, hencoded⟩ := hanswer
  cases hencoded
  simp [maxAnswerSize]

theorem small_performUpload {clientMessageId author : Id16}
    {request : UploadRequest}
    (hanswer : (performUpload crypto now clientMessageId author request db).1 =
      .ok answer) : answer.length ≤ 9 := by
  cases request <;>
    simp only [performUpload, reading_fst_eq_ok, andThen_fst_eq_ok] at hanswer
  · obtain ⟨accepted, _, -, hencoded⟩ := hanswer
    cases hencoded
    simp
  · obtain ⟨_, _, -, hencoded⟩ := hanswer
    cases hencoded
    decide
  · obtain ⟨_, -, _, _, -, hencoded⟩ := hanswer
    cases hencoded
    decide
  · obtain ⟨_, _, -, hencoded⟩ := hanswer
    cases hencoded
    simp
  · obtain ⟨_, _, -, hencoded⟩ := hanswer
    cases hencoded
    decide
  · obtain ⟨_, -, _, _, -, hencoded⟩ := hanswer
    cases hencoded
    decide

theorem small_uploadEnvelope {clientMessageId : Id16}
    (hanswer : (uploadEnvelope crypto now clientMessageId body db).1 = .ok answer) :
    answer.length ≤ maxAnswerSize := by
  simp only [uploadEnvelope, authenticated, reading_fst_eq_ok, andThen_fst_eq_ok]
    at hanswer
  obtain ⟨_, -, author, -, request, -, encoded, after, hperform, hencoded⟩ := hanswer
  have hsmall := small_performUpload (congrArg Prod.fst hperform)
  cases hencoded
  rw [List.length_cons]
  unfold maxAnswerSize
  omega

theorem small_relayDirectoryRequest (hbounded : Bounded db)
    (hanswer : (relayDirectoryRequest body db).1 = .ok answer) :
    answer.length ≤ maxAnswerSize := by
  simp only [relayDirectoryRequest, reading_fst_eq_ok] at hanswer
  obtain ⟨identifier, -, hanswer⟩ := hanswer
  cases hblob : fetchRecoveryPackage identifier db with
  | none =>
      rw [hblob] at hanswer
      cases hanswer
      decide
  | some blob =>
      rw [hblob] at hanswer
      cases hanswer
      obtain ⟨account, haccount, hstored⟩ := Option.bind_eq_some_iff.mp hblob
      have hsize := hbounded.blobs account (List.mem_of_find?_eq_some haccount) blob
        hstored
      simp only [List.length_cons]
      omega

theorem small_receiptBatch {receiptType : ℤ}
    (hanswer : (receiptBatch crypto now receiptType body db).1 = .ok answer) :
    answer.length ≤ maxAnswerSize := by
  simp only [receiptBatch, authenticated, reading_fst_eq_ok, andThen_fst_eq_ok]
    at hanswer
  obtain ⟨_, -, _, -, _, -, _, _, -, hencoded⟩ := hanswer
  cases hencoded
  decide

/-- Only a page can be too large. -/
theorem route_small {frame : TransportFrame} {kind : FrameType} {handler : Handler}
    (hbounded : Bounded db) (hbody : frame.body.length ≤ maxAnswerSize)
    (hkind : frame.kind ≠ .syncRequest)
    (hroute : route crypto moment frame = some (kind, handler))
    (hanswer : (handler db).1 = .ok answer) : answer.length ≤ maxAnswerSize := by
  unfold route at hroute
  split at hroute <;> cases hroute
  · exact small_clientHello hanswer
  · exact small_authChallenge hanswer
  · exact small_authResponse hanswer
  · exact small_uploadEnvelope hanswer
  · contradiction
  · exact small_relayDirectoryRequest hbounded hanswer
  · exact small_receiptBatch hanswer
  · exact small_receiptBatch hanswer
  · cases hanswer
    exact hbody

theorem dispatch_fst_eq_ok {frame response : TransportFrame} :
    (dispatch crypto moment frame db).1 = .ok response ↔
      ∃ kind handler answer, route crypto moment frame = some (kind, handler) ∧
        (handler db).1 = .ok answer ∧
        response = ⟨1, kind, frame.clientMessageId, 0, answer⟩ := by
  unfold dispatch
  cases hroute : route crypto moment frame with
  | none => simp
  | some routed =>
      obtain ⟨kind, handler⟩ := routed
      simp only [andThen_fst_eq_ok, Option.some.injEq, Prod.mk.injEq]
      constructor
      · rintro ⟨answer, after, hhandler, hresponse⟩
        cases hresponse
        exact ⟨kind, handler, answer, ⟨rfl, rfl⟩, congrArg Prod.fst hhandler, rfl⟩
      · rintro ⟨_, _, answer, ⟨rfl, rfl⟩, hanswer, rfl⟩
        exact ⟨answer, (handler db).2, Prod.ext hanswer rfl, rfl⟩

end Answers

/-- Whatever is stored, a request that is carried out is answered unless it asks
for a page that is too large. -/
theorem answered_iff {crypto : Crypto} {db : Database} (hbounded : Bounded db)
    (packet : Packet) : Answered crypto db packet ↔ PageFits crypto db packet := by
  constructor
  · intro hanswered frame token unread deviceId request hdecode hkind htoken hdevice
      hrequest
    by_contra hlarge
    obtain ⟨answer, hanswer, hsize⟩ := performSync_of_large (not_le.mp hlarge)
    have hroute : route crypto packet.moment frame =
        some (.syncBatch, syncRequest crypto packet.moment.now frame.body) := by
      rw [route, hkind]
    have hsync : (syncRequest crypto packet.moment.now frame.body db).1 = .ok answer :=
      syncRequest_fst_eq_ok.mpr
        ⟨token, unread, deviceId, request, htoken, hdevice, hrequest, hanswer⟩
    have hread := hanswered frame _ hdecode
      (dispatch_fst_eq_ok.mpr ⟨_, _, answer, hroute, hsync, rfl⟩)
    rw [decode_cborResponse rfl rfl] at hread
    exact hlarge (hsize ▸ hread)
  · intro hfits frame response hdecode hresponse
    obtain ⟨kind, handler, answer, hroute, hanswer, rfl⟩ :=
      dispatch_fst_eq_ok.mp hresponse
    rw [decode_cborResponse rfl rfl]
    by_cases hkind : frame.kind = .syncRequest
    · rw [route, hkind] at hroute
      cases hroute
      obtain ⟨token, unread, deviceId, request, htoken, hdevice, hrequest, hsync⟩ :=
        syncRequest_fst_eq_ok.mp hanswer
      have hsize := hfits frame token unread deviceId request hdecode hkind htoken
        hdevice hrequest
      cases request with
      | events groupId after limit =>
          rw [← performSync_events hsync] at hsize
          exact hsize
      | keyPackage target => exact performSync_keyPackage hbounded hsync
      | welcomes limit =>
          rw [← performSync_welcomes hsync] at hsize
          exact hsize
    · exact route_small hbounded (body_length_le hdecode) hkind hroute hanswer

/-- After any requests, every request that is carried out is answered unless it
asks for a page that is too large. -/
theorem answered_iff_page_fits (crypto : Crypto) (packets : List Packet)
    (packet : Packet) :
    Answered crypto (run (receive crypto) Database.migrated packets) packet ↔
      PageFits crypto (run (receive crypto) Database.migrated packets) packet :=
  answered_iff (bounded_run crypto packets) packet

/-! ## Two Welcomes that are lost -/

/-- The account of the neutral root key, its SHA-256 digest. -/
def neutralAccount : Id32 :=
  ⟨[101, 93, 246, 74, 61, 209, 82, 169, 229, 107, 197, 241, 252, 173, 27, 124,
      201, 191, 69, 243, 145, 95, 134, 51, 198, 76, 193, 24, 202, 175, 42, 114],
    rfl⟩

/-- Hashing on the inputs of one session of the neutral account. -/
def sessionCrypto : Crypto where
  sha256 input :=
    if input = accountIdDomain ++ SignatureScheme.neutralKey.toList then
      neutralAccount
    else if input = ascii "resilient/session/v1" ++ ascii "refresh" ++
        List.replicate 32 0 then zeroRefreshHash
    else zeroTokenHash
  signatures := SignatureScheme.neutral

def sessionMoment : Moment where
  now := 0
  randomId := FixedBytes.fill 16 6
  firstRandom := FixedBytes.fill 32 0
  secondRandom := FixedBytes.fill 32 0

def sessionFrame (kind : FrameType) (body : Bytes) : TransportFrame where
  version := 1
  kind
  clientMessageId := FixedBytes.fill 16 9
  ttlSeconds := 60
  body

def sessionPacket (kind : FrameType) (body : Bytes) : Packet where
  moment := sessionMoment
  input := (sessionFrame kind body).items

/-- A device registers, signs in and founds a group. -/
def signIn : List Packet :=
  [sessionPacket .clientHello (neutralAccount.toList ++
      SignatureScheme.neutralKey.toList ++ List.replicate 16 3 ++
      SignatureScheme.neutralKey.toList ++ List.replicate 8 0 ++
      SignatureScheme.neutralSignature.toList),
    sessionPacket .authChallenge (List.replicate 16 3),
    sessionPacket .authResponse (List.replicate 16 6 ++
      SignatureScheme.neutralSignature.toList),
    sessionPacket .uploadEnvelope (List.replicate 32 0 ++ 3 ::
      List.replicate 16 5)]

/-- What signing in leaves behind. -/
def signedInServer : Database :=
  { Database.migrated with
    accounts := ⟨[⟨neutralAccount, SignatureScheme.neutralKey, none, none⟩],
      List.nodup_singleton _⟩
    devices := ⟨[⟨FixedBytes.fill 16 3, neutralAccount, SignatureScheme.neutralKey,
      none⟩], List.nodup_singleton _⟩
    deviceCertificates := ⟨[⟨FixedBytes.fill 16 3, SignatureScheme.neutralSignature,
      0⟩], List.nodup_singleton _⟩
    authChallenges := ⟨[⟨FixedBytes.fill 16 6, FixedBytes.fill 16 3,
      FixedBytes.fill 32 0, 120000000, some 0⟩], List.nodup_singleton _⟩
    accessSessions := ⟨[⟨zeroTokenHash, FixedBytes.fill 16 3, 900000000⟩],
      List.nodup_singleton _⟩
    refreshSessions := ⟨[⟨zeroRefreshHash, FixedBytes.fill 16 6,
      FixedBytes.fill 16 3, none, 2592000000000, none, none⟩], List.nodup_singleton _⟩
    groups := ⟨[⟨FixedBytes.fill 16 5, FixedBytes.fill 16 3⟩], List.nodup_singleton _⟩
    groupMembers := ⟨[⟨FixedBytes.fill 16 5, FixedBytes.fill 16 3,
      neutralAccount, 2, none⟩], List.nodup_singleton _⟩ }

theorem run_signIn :
    run (receive sessionCrypto) Database.migrated signIn = signedInServer := by
  decide +kernel

/-- The device sends itself a Welcome. -/
def welcomeBody (identifier : UInt8) (content : Bytes) : Bytes :=
  5 :: (List.replicate 16 3 ++ List.replicate 16 5 ++
    List.replicate 16 identifier ++ content)

def welcomePacket (identifier : UInt8) (content : Bytes) : Packet :=
  sessionPacket .uploadEnvelope (List.replicate 32 0 ++
    welcomeBody identifier content)

def welcomeRow (identifier : UInt8) (content : Bytes) : WelcomeRow where
  welcomeId := FixedBytes.fill 16 identifier
  targetDeviceId := FixedBytes.fill 16 3
  groupId := FixedBytes.fill 16 5
  welcome := content
  expiresAt := 604800000000
  consumedAt := none

def fetchPacket : Packet :=
  sessionPacket .syncRequest (List.replicate 32 0 ++ [3, 50])

theorem decode_sessionPacket {kind : FrameType} {body : Bytes}
    (hbody : body.length ≤ 65500) :
    TransportFrame.decode (sessionPacket kind body).input =
      .ok (sessionFrame kind body) := by
  rw [frame_decode_eq_ok]
  have hlimit : (60 : UInt32).toNat ≤ maxTtlSeconds := by decide
  refine ⟨rfl, frame_encode_eq_ok.mpr ⟨hlimit, ?_, rfl⟩⟩
  have hversion : (Encoder.uint (sessionFrame kind body).version.toNat).length = 1 := by
    rfl
  have httl : (Encoder.uint (sessionFrame kind body).ttlSeconds.toNat).length = 2 := by
    rfl
  rw [length_items, hversion, httl, Encoder.bytes, List.length_append, length_major]
  unfold sessionFrame maxFrameSize
  dsimp only
  split_ifs <;> omega

/-- The signed-in server with a mailbox. -/
def mailServer (mailbox : Table WelcomeRow.welcomeId) : Database :=
  { signedInServer with welcomeMailbox := mailbox }

section Overflow

variable {content : Bytes} {mailbox stored : Table WelcomeRow.welcomeId}

theorem authenticate_mailServer :
    authenticateAccess sessionCrypto 0 (FixedBytes.fill 32 0) (mailServer mailbox) =
      .ok (FixedBytes.fill 16 3) := by
  have hsame : authenticateAccess sessionCrypto 0 (FixedBytes.fill 32 0)
      (mailServer mailbox) =
        authenticateAccess sessionCrypto 0 (FixedBytes.fill 32 0) signedInServer := rfl
  rw [hsame]
  decide +kernel

theorem uploadWelcome_mailServer {identifier : UInt8} (hcontent : content ≠ [])
    (hlength : content.length ≤ 65400)
    (hinsert : mailbox.insert? (welcomeRow identifier content) = some stored) :
    uploadWelcome 0 (FixedBytes.fill 16 3) (FixedBytes.fill 16 3)
      (FixedBytes.fill 16 5) (FixedBytes.fill 16 identifier) content
      (mailServer mailbox) = (.ok (), mailServer stored) := by
  unfold uploadWelcome
  rw [if_neg (by simp [hcontent]; omega)]
  apply transaction_of_ok
  have hactive : assertActiveMember (FixedBytes.fill 16 5) (FixedBytes.fill 16 3)
      (mailServer mailbox) = .ok () := by
    have hsame : assertActiveMember (FixedBytes.fill 16 5) (FixedBytes.fill 16 3)
        (mailServer mailbox) = assertActiveMember (FixedBytes.fill 16 5)
          (FixedBytes.fill 16 3) signedInServer := rfl
    rw [hsame]
    decide +kernel
  have hmember : ((mailServer mailbox).groupMembers.lookup
      (FixedBytes.fill 16 5, FixedBytes.fill 16 3)).isNone = false := by
    have hsame : (mailServer mailbox).groupMembers =
        signedInServer.groupMembers := rfl
    rw [hsame]
    decide +kernel
  have hfree : mailbox.lookup (FixedBytes.fill 16 identifier) = none :=
    (Table.insert?_eq_some_iff.mp hinsert).1
  have hknown : ((mailServer mailbox).hasDevice (FixedBytes.fill 16 3) &&
      (mailServer mailbox).hasGroup (FixedBytes.fill 16 5)) = true := by
    have hsame : ((mailServer mailbox).hasDevice (FixedBytes.fill 16 3) &&
        (mailServer mailbox).hasGroup (FixedBytes.fill 16 5)) =
          (signedInServer.hasDevice (FixedBytes.fill 16 3) &&
            signedInServer.hasGroup (FixedBytes.fill 16 5)) := rfl
    rw [hsame]
    decide +kernel
  have hstore : (mailServer mailbox).insertWelcomeOrIgnore
      (welcomeRow identifier content) = .ok (mailServer stored) := by
    unfold Database.insertWelcomeOrIgnore
    have hnew : ((mailServer mailbox).welcomeMailbox.lookup
        (welcomeRow identifier content).welcomeId).isSome = false := by
      change (mailbox.lookup (FixedBytes.fill 16 identifier)).isSome = false
      rw [hfree]
      rfl
    rw [hnew]
    apply bind_eq_ok.mpr
    exact ⟨stored, Database.insertInto_eq_ok.mpr ⟨hknown, hinsert⟩, rfl⟩
  apply bind_eq_ok.mpr
  refine ⟨(), hactive, ?_⟩
  rw [hmember]
  apply bind_eq_ok.mpr
  exact ⟨_, hstore, rfl⟩

theorem read_welcomeBody {identifier : UInt8} :
    decodeWith UploadRequest.reader (welcomeBody identifier content) =
      .ok (.welcome (FixedBytes.fill 16 3) (FixedBytes.fill 16 5)
        (FixedBytes.fill 16 identifier) content) := by
  apply ByteReader.decodeWith_eq_ok.mpr
  refine ⟨[], ?_⟩
  simp only [UploadRequest.reader, ByteReader.bind_eq_ok]
  refine ⟨5, _, rfl, ?_⟩
  simp only [UploadRequest.fields, ByteReader.bind_eq_ok, ByteReader.pure_eq_ok]
  exact ⟨_, _, ByteReader.array_eq_ok.mpr rfl, _, _, ByteReader.array_eq_ok.mpr rfl,
    _, _, ByteReader.array_eq_ok.mpr rfl, _, _, rfl, rfl⟩

theorem receive_welcomePacket {identifier : UInt8} (hcontent : content ≠ [])
    (hlength : content.length ≤ 65400)
    (hinsert : mailbox.insert? (welcomeRow identifier content) = some stored) :
    receive sessionCrypto (mailServer mailbox) (welcomePacket identifier content) =
      mailServer stored := by
  have hbody : (List.replicate 32 (0 : UInt8) ++
      welcomeBody identifier content).length ≤ 65500 := by
    simp only [welcomeBody, List.length_append, List.length_cons,
      List.length_replicate]
    omega
  have hupload : uploadEnvelope sessionCrypto 0 (FixedBytes.fill 16 9)
      (List.replicate 32 0 ++ welcomeBody identifier content) (mailServer mailbox) =
        (.ok [5], mailServer stored) :=
    uploadEnvelope_eq_ok.mpr ⟨FixedBytes.fill 32 0, _, _, _, [],
      ByteReader.array_eq_ok.mpr rfl, authenticate_mailServer, read_welcomeBody,
      andThen_eq_ok.mpr ⟨_, _, uploadWelcome_mailServer hcontent hlength hinsert, rfl⟩,
      rfl⟩
  have hdispatch : ∃ response, dispatch sessionCrypto sessionMoment
      (sessionFrame .uploadEnvelope
        (List.replicate 32 0 ++ welcomeBody identifier content))
      (mailServer mailbox) = (.ok response, mailServer stored) :=
    (dispatch_upload rfl).mpr ⟨_, hupload⟩
  obtain ⟨response, hresponse⟩ := hdispatch
  unfold receive
  rw [welcomePacket, decode_sessionPacket hbody]
  exact congrArg Prod.snd hresponse

/-- The mailbox after two Welcomes. -/
def twoWelcomes (content : Bytes) : Table WelcomeRow.welcomeId :=
  ⟨[welcomeRow 11 content, welcomeRow 12 content], by
    change ([FixedBytes.fill 16 11, FixedBytes.fill 16 12] : List Id16).Nodup
    decide⟩

theorem run_twoWelcomes (hcontent : content ≠ []) (hlength : content.length ≤ 65400) :
    run (receive sessionCrypto) Database.migrated
        (signIn ++ [welcomePacket 11 content, welcomePacket 12 content]) =
      mailServer (twoWelcomes content) := by
  have hfirst : (Table.empty : Table WelcomeRow.welcomeId).insert?
      (welcomeRow 11 content) = some ⟨[welcomeRow 11 content], by simp⟩ := by
    rw [Table.insert?_eq_some_iff]
    exact ⟨rfl, rfl⟩
  have hsecond : (⟨[welcomeRow 11 content], by simp⟩ :
      Table WelcomeRow.welcomeId).insert? (welcomeRow 12 content) =
        some (twoWelcomes content) := by
    rw [Table.insert?_eq_some_iff]
    exact ⟨rfl, rfl⟩
  have hempty : signedInServer = mailServer Table.empty := rfl
  rw [run_append, run_signIn, run_cons, run_cons, run_nil, hempty,
    receive_welcomePacket hcontent hlength hfirst,
    receive_welcomePacket hcontent hlength hsecond]

theorem read_fetchBody :
    decodeWith SyncRequest.reader [3, 50] = .ok (.welcomes 50) := rfl

/-- The page of both Welcomes does not fit. -/
theorem pageSize_twoWelcomes :
    pageSize 0 (FixedBytes.fill 16 3) (mailServer (twoWelcomes content))
      (.welcomes 50) = 2 + ((36 + content.length) + (36 + content.length)) := rfl

theorem fetch_mailServer :
    dispatch sessionCrypto sessionMoment (sessionFrame .syncRequest
        (List.replicate 32 0 ++ [3, 50])) (mailServer mailbox) =
      (.ok ⟨1, .syncBatch, FixedBytes.fill 16 9, 0,
          3 :: UInt8.ofNat (welcomePage 0 (FixedBytes.fill 16 3) 50
            (mailServer mailbox)).length :: (welcomePage 0 (FixedBytes.fill 16 3) 50
              (mailServer mailbox)).flatMap encodeWelcome⟩,
        (fetchWelcomes 0 (FixedBytes.fill 16 3) 50 (mailServer mailbox)).2) := by
  have htoken : Body.array 32 (List.replicate 32 0 ++ [3, 50]) =
      .ok (FixedBytes.fill 32 0, [3, 50]) := ByteReader.array_eq_ok.mpr rfl
  have hsync : syncRequest sessionCrypto 0 (List.replicate 32 0 ++ [3, 50])
      (mailServer mailbox) = performSync 0 (FixedBytes.fill 16 3) (.welcomes 50)
        (mailServer mailbox) := by
    simp only [syncRequest, authenticated, htoken, reading, authenticate_mailServer,
      read_fetchBody]
  simp only [dispatch, route, sessionFrame, sessionMoment, hsync]
  rfl

/-- Two large Welcomes are consumed by a request whose answer is empty. -/
theorem consumed_without_answer (hlength : content.length = 33000) :
    ¬Answered sessionCrypto (run (receive sessionCrypto) Database.migrated
        (signIn ++ [welcomePacket 11 content, welcomePacket 12 content]))
        fetchPacket ∧
      ∀ row ∈ (receive sessionCrypto (run (receive sessionCrypto) Database.migrated
          (signIn ++ [welcomePacket 11 content, welcomePacket 12 content]))
          fetchPacket).welcomeMailbox.rows, row.consumedAt = some 0 := by
  have hcontent : content ≠ [] := by
    rintro rfl
    simp at hlength
  rw [run_twoWelcomes hcontent (by omega)]
  have hdecode : TransportFrame.decode fetchPacket.input = .ok (sessionFrame
      .syncRequest (List.replicate 32 0 ++ [3, 50])) :=
    decode_sessionPacket (by simp)
  constructor
  · intro hanswered
    have hread := hanswered _ _ hdecode (congrArg Prod.fst fetch_mailServer)
    rw [decode_cborResponse rfl rfl] at hread
    have hsize := @pageSize_twoWelcomes content
    simp only [pageSize] at hsize
    simp only [List.length_cons, length_encodeWelcomes, maxAnswerSize] at hread
    omega
  · unfold receive
    rw [hdecode]
    change ∀ row ∈ (dispatch sessionCrypto sessionMoment _ _).2.welcomeMailbox.rows, _
    rw [fetch_mailServer]
    have hrows : (fetchWelcomes 0 (FixedBytes.fill 16 3) 50
        (mailServer (twoWelcomes content))).2.welcomeMailbox.rows =
          [{ welcomeRow 11 content with consumedAt := some 0 },
            { welcomeRow 12 content with consumedAt := some 0 }] := rfl
    intro row hrow
    rw [hrows] at hrow
    simp only [List.mem_cons, List.not_mem_nil, or_false] at hrow
    rcases hrow with rfl | rfl <;> rfl

end Overflow

theorem welcomes_consumed_without_answer :
    ¬Answered sessionCrypto (run (receive sessionCrypto) Database.migrated
        (signIn ++ [welcomePacket 11 (List.replicate 33000 0),
          welcomePacket 12 (List.replicate 33000 0)])) fetchPacket ∧
      ∀ row ∈ (receive sessionCrypto (run (receive sessionCrypto) Database.migrated
          (signIn ++ [welcomePacket 11 (List.replicate 33000 0),
            welcomePacket 12 (List.replicate 33000 0)]))
          fetchPacket).welcomeMailbox.rows, row.consumedAt = some 0 :=
  consumed_without_answer List.length_replicate

end ResilientMessenger.Responses
