import ResilientMessenger.Server.Responses

/-!
# Stored items one at a time

A page can be too large for an answer, a single item never is.  A request
carries 32 octets of access token and at least the fields of the item before its
content, and every answer that returns one item puts fewer octets around the
same content.  What a frame could upload another frame can therefore return,
for each of the four kinds of item.
-/

namespace ResilientMessenger.SingleItems

open ResilientMessenger.ByteCodec
open ResilientMessenger.ByteReader (decodeWith)
open ResilientMessenger.Frames
open ResilientMessenger.Identity
open ResilientMessenger.Schema
open ResilientMessenger.Backend
open ResilientMessenger.Dispatch
open ResilientMessenger.Transaction
open ResilientMessenger.Calls
open ResilientMessenger.Effects
open ResilientMessenger.Responses
open ResilientMessenger.Runs

/-- The frame encodes and keeps the limit. -/
def Encodes (frame : TransportFrame) : Prop :=
  ∃ output, frame.encode = .ok output ∧ output.length ≤ maxFrameSize

/-- The answer to a request. -/
def answer (kind : FrameType) (clientMessageId : Id16) (body : Bytes) :
    TransportFrame :=
  ⟨1, kind, clientMessageId, 0, body⟩

/-- At most one item is asked for. -/
def asksForOne : SyncRequest → Prop
  | .events _ _ limit => limit ≤ 1
  | .keyPackage _ => True
  | .welcomes limit => limit ≤ 1

/-- A request for a recovery package, or for at most one item of another kind. -/
def SingleRequest (frame : TransportFrame) : Prop :=
  frame.kind = .relayDirectoryRequest ∨
    frame.kind = .syncRequest ∧ ∀ token unread request,
      Body.array 32 frame.body = .ok (token, unread) →
      decodeWith SyncRequest.reader unread = .ok request → asksForOne request

/-- Every stored item can be returned in an answer of its own, and every answer
to a request for one item reaches the client. -/
structure Deliverable (crypto : Crypto) (db : Database) : Prop where
  events : ∀ row ∈ db.groupEvents.rows, ∀ operation clientMessageId,
    Encodes (answer .syncBatch clientMessageId
      (operation :: 1 :: encodeEvent (.ofRow row)))
  welcomes : ∀ row ∈ db.welcomeMailbox.rows, ∀ clientMessageId,
    Encodes (answer .syncBatch clientMessageId (3 :: 1 :: encodeWelcome row))
  packages : ∀ row ∈ db.keyPackages.rows, ∀ clientMessageId,
    Encodes (answer .syncBatch clientMessageId
      (2 :: 1 :: (row.packageId.toList ++ row.package)))
  blobs : ∀ account ∈ db.accounts.rows, ∀ blob ∈ account.recoveryBlob,
    ∀ clientMessageId,
      Encodes (answer .relayDirectoryResponse clientMessageId (1 :: 1 :: blob))
  answers : ∀ moment frame response, SingleRequest frame →
    (dispatch crypto moment frame db).1 = .ok response → Encodes response

/-! ## The size of stored items -/

/-- Every item came in a frame that also carried its fields. -/
structure Carried (db : Database) : Prop extends Bounded db where
  events : ∀ row ∈ db.groupEvents.rows, 68 + row.ciphertext.length ≤ maxAnswerSize
  welcomes : ∀ row ∈ db.welcomeMailbox.rows, 81 + row.welcome.length ≤ maxAnswerSize

section Calls

variable {crypto : Crypto} {moment : Moment} {db : Database}

theorem registerAccountDevice_extent (accountId rootPublicKey : Id32)
    (cert : DeviceCertificate) :
    ∃ accounts devices deviceCertificates,
      (registerAccountDevice crypto accountId rootPublicKey cert db).2 =
        { db with accounts, devices, deviceCertificates } := by
  rcases registerAccountDevice_cases accountId rootPublicKey cert with hsame |
    ⟨known, devices, deviceCertificates, hknown, -, hnext⟩
  · exact ⟨db.accounts, db.devices, db.deviceCertificates, hsame⟩
  · obtain ⟨accounts, rfl⟩ := insertAccountOrIgnore_eq_ok hknown
    exact ⟨accounts, devices, deviceCertificates, hnext⟩

theorem publishKeyPackage_extent (now : Time) (deviceId packageId : Id16)
    (package : Bytes) :
    ∃ keyPackages, (publishKeyPackage now deviceId packageId package db).2 =
      { db with keyPackages } := by
  unfold publishKeyPackage
  split
  · exact ⟨db.keyPackages, rfl⟩
  split
  · exact ⟨db.keyPackages, rfl⟩
  split
  · exact ⟨_, rfl⟩
  · exact ⟨db.keyPackages, rfl⟩

theorem storeRecoveryPackage_extent (accountId recoveryIdentifier : Id32)
    (blob : Bytes) :
    ∃ accounts, (storeRecoveryPackage accountId recoveryIdentifier blob db).2 =
      { db with accounts } := by
  unfold storeRecoveryPackage
  split_ifs
  · exact ⟨db.accounts, rfl⟩
  · exact ⟨db.accounts, rfl⟩
  · exact ⟨db.accounts, rfl⟩
  · exact ⟨_, rfl⟩

theorem fetchKeyPackage_extent (now : Time) (target : Id16) :
    ∃ keyPackages, (fetchKeyPackage now target db).2 = { db with keyPackages } := by
  unfold fetchKeyPackage
  dsimp only
  split
  · exact ⟨db.keyPackages, rfl⟩
  · exact ⟨_, rfl⟩

theorem carried_same {next : Database} (hcarried : Carried db) (hbounded : Bounded next)
    (hevents : next.groupEvents = db.groupEvents)
    (hwelcomes : next.welcomeMailbox = db.welcomeMailbox) : Carried next where
  toBounded := hbounded
  events := by
    rw [hevents]
    exact hcarried.events
  welcomes := by
    rw [hwelcomes]
    exact hcarried.welcomes

theorem events_uploadEvent (hcarried : Carried db) (now : Time) (event : UploadedEvent)
    (hsize : 68 + event.ciphertext.length ≤ maxAnswerSize) :
    ∀ row ∈ (uploadEvent now event db).2.groupEvents.rows,
      68 + row.ciphertext.length ≤ maxAnswerSize := by
  rcases Redelivery.uploadEvent_outcomes now event db with ⟨failure, houtcome⟩ |
    ⟨-, ⟨cursor, -, houtcome⟩ | ⟨-, ⟨failure, -, houtcome⟩ |
      ⟨inserted, hinsert, houtcome⟩⟩⟩
  · rw [houtcome]
    exact hcarried.events
  · rw [houtcome]
    exact hcarried.events
  · rw [houtcome]
    exact hcarried.events
  · rw [houtcome]
    obtain ⟨groupEvents, rfl, hrows, -⟩ := Database.insertEvent_eq_ok hinsert
    intro row hrow
    simp only [hrows, List.mem_append, List.mem_singleton] at hrow
    rcases hrow with hold | rfl
    · exact hcarried.events row hold
    · exact hsize

theorem mem_insertWelcomeOrIgnore {row : WelcomeRow} {next : Database}
    (hinsert : db.insertWelcomeOrIgnore row = .ok next) {stored : WelcomeRow}
    (hstored : stored ∈ next.welcomeMailbox.rows) :
    stored ∈ db.welcomeMailbox.rows ∨ stored = row := by
  unfold Database.insertWelcomeOrIgnore at hinsert
  split at hinsert
  · cases hinsert
    exact .inl hstored
  · simp only [bind_eq_ok, pure_eq_ok, Database.insertInto_eq_ok] at hinsert
    obtain ⟨welcomeMailbox, ⟨-, hrows⟩, rfl⟩ := hinsert
    simpa [(Table.insert?_eq_some_iff.mp hrows).2] using hstored

theorem welcomes_uploadWelcome (hcarried : Carried db) (now : Time)
    (author target group welcomeId : Id16) (welcome : Bytes)
    (hsize : 81 + welcome.length ≤ maxAnswerSize) :
    ∀ row ∈ (uploadWelcome now author target group welcomeId welcome
        db).2.welcomeMailbox.rows, 81 + row.welcome.length ≤ maxAnswerSize := by
  by_cases hlength : welcome = [] ∨ 65536 < welcome.length
  · rw [uploadWelcome, if_pos hlength]
    exact hcarried.welcomes
  rw [uploadWelcome, if_neg hlength]
  rcases transaction_cases db _ with ⟨failure, hfailure⟩ |
    ⟨value, committed, -, hcommit⟩
  · rw [hfailure]
    exact hcarried.welcomes
  rw [hcommit]
  have hupload : uploadWelcome now author target group welcomeId welcome db =
      (.ok (), committed) := by
    rw [uploadWelcome, if_neg hlength]
    exact hcommit
  obtain ⟨-, -, -, hinsert⟩ := Redelivery.uploadWelcome_inserted hupload
  intro row hrow
  rcases mem_insertWelcomeOrIgnore hinsert hrow with hold | rfl
  · exact hcarried.welcomes row hold
  · exact hsize

/-- A call stores nothing that was not in its request. -/
theorem carried_perform (hcarried : Carried db) {call : Call}
    (hsize : call.bodySize ≤ maxAnswerSize) :
    Carried (call.perform crypto moment db) := by
  have hbounded : Bounded (call.perform crypto moment db) :=
    bounded_perform hcarried.toBounded hsize
  cases call with
  | registerAccountDevice accountId rootPublicKey cert =>
      obtain ⟨_, _, _, hextent⟩ :=
        registerAccountDevice_extent accountId rootPublicKey cert
      exact carried_same hcarried hbounded (by rw [Call.perform, hextent])
        (by rw [Call.perform, hextent])
  | beginChallenge deviceId =>
      obtain ⟨_, hextent⟩ := beginChallenge_extent deviceId
      exact carried_same hcarried hbounded (by rw [Call.perform, hextent])
        (by rw [Call.perform, hextent])
  | completeChallenge challengeId signature =>
      obtain ⟨_, _, _, hextent⟩ := completeChallenge_extent challengeId signature
      exact carried_same hcarried hbounded (by rw [Call.perform, hextent])
        (by rw [Call.perform, hextent])
  | rotateRefresh deviceId refreshToken signature =>
      obtain ⟨_, _, hextent⟩ := rotateRefresh_extent deviceId refreshToken signature
      exact carried_same hcarried hbounded (by rw [Call.perform, hextent])
        (by rw [Call.perform, hextent])
  | uploadEvent event =>
      obtain ⟨_, _, hextent⟩ := uploadEvent_extent moment.now event
      refine ⟨hbounded, events_uploadEvent hcarried moment.now event hsize, ?_⟩
      rw [Call.perform, hextent]
      exact hcarried.welcomes
  | publishKeyPackage deviceId packageId package =>
      obtain ⟨_, hextent⟩ :=
        publishKeyPackage_extent moment.now deviceId packageId package
      exact carried_same hcarried hbounded (by rw [Call.perform, hextent])
        (by rw [Call.perform, hextent])
  | createGroup groupId creator accountId =>
      obtain ⟨_, _, hextent⟩ := createGroup_extent groupId creator accountId
      exact carried_same hcarried hbounded (by rw [Call.perform, hextent])
        (by rw [Call.perform, hextent])
  | applyMembershipOperation request =>
      obtain ⟨_, _, hextent⟩ := applyMembershipOperation_extent crypto moment.now request
      exact carried_same hcarried hbounded (by rw [Call.perform, hextent])
        (by rw [Call.perform, hextent])
  | uploadWelcome author target group welcomeId welcome =>
      obtain ⟨_, hextent⟩ :=
        uploadWelcome_extent moment.now author target group welcomeId welcome
      refine ⟨hbounded, ?_, welcomes_uploadWelcome hcarried moment.now author target
        group welcomeId welcome hsize⟩
      rw [Call.perform, hextent]
      exact hcarried.events
  | storeRecoveryPackage accountId recoveryIdentifier blob =>
      obtain ⟨_, hextent⟩ :=
        storeRecoveryPackage_extent accountId recoveryIdentifier blob
      exact carried_same hcarried hbounded (by rw [Call.perform, hextent])
        (by rw [Call.perform, hextent])
  | fetchKeyPackage target =>
      obtain ⟨_, hextent⟩ := fetchKeyPackage_extent moment.now target
      exact carried_same hcarried hbounded (by rw [Call.perform, hextent])
        (by rw [Call.perform, hextent])
  | fetchWelcomes target limit =>
      refine ⟨hbounded, hcarried.events, ?_⟩
      intro row hrow
      simp only [Call.perform, fetchWelcomes, Table.update, List.mem_map] at hrow
      obtain ⟨old, hold, rfl⟩ := hrow
      split <;> exact hcarried.welcomes old hold
  | recordReceipts deviceId eventIds receiptType =>
      obtain ⟨_, hextent⟩ := recordReceipts_extent deviceId eventIds receiptType
      exact carried_same hcarried hbounded (by rw [Call.perform, hextent])
        (by rw [Call.perform, hextent])

end Calls

theorem carried_receive (crypto : Crypto) (db : Database) (packet : Packet)
    (hcarried : Carried db) : Carried (receive crypto db packet) := by
  unfold receive
  cases hdecode : TransportFrame.decode packet.input with
  | error failure => exact hcarried
  | ok frame =>
      rcases dispatch_makes crypto packet.moment db frame with hsame |
        ⟨call, hsize, -, hcall⟩
      · simp only [serve, hsame]
        exact hcarried
      · simp only [serve, hcall]
        exact carried_perform hcarried (hsize.trans (body_length_le hdecode))

theorem carried_run (crypto : Crypto) (packets : List Packet) :
    Carried (run (receive crypto) Database.migrated packets) := by
  apply run_invariant (carried_receive crypto)
  exact ⟨⟨by simp [Database.migrated, Table.empty],
    by simp [Database.migrated, Table.empty]⟩,
    by simp [Database.migrated, Table.empty], by simp [Database.migrated, Table.empty]⟩

/-! ## The size of an answer with one item -/

theorem encodes_of_length {kind : FrameType} {clientMessageId : Id16} {body : Bytes}
    (hbody : body.length ≤ maxAnswerSize) : Encodes (answer kind clientMessageId body) := by
  have hread : TransportFrame.decode (cborResponse (answer kind clientMessageId body)) =
      .ok (answer kind clientMessageId body) :=
    (decode_cborResponse rfl rfl).mpr hbody
  obtain ⟨-, hencode⟩ := frame_decode_eq_ok.mp hread
  obtain ⟨-, hitems, houtput⟩ := frame_encode_eq_ok.mp hencode
  exact ⟨_, hencode, houtput ▸ hitems⟩

/-- The rows of a page of at most one row take no more than any row takes. -/
theorem sum_le_of_single {ρ : Type} {rows : List ρ} (size : ρ → ℕ) (bound : ℕ)
    (hlength : rows.length ≤ 1) (hsize : ∀ row ∈ rows, size row ≤ bound) :
    (rows.map size).sum ≤ bound := by
  match rows, hlength with
  | [], _ => exact Nat.zero_le bound
  | [row], _ => simpa using hsize row (List.mem_singleton_self row)

theorem batchSize_of_le_one {limit : ℤ} (hlimit : limit ≤ 1) : batchSize limit = 1 := by
  unfold batchSize maxSyncBatch
  omega

section Answers

variable {crypto : Crypto} {moment : Moment} {now : Time} {deviceId : Id16}
variable {db : Database}

theorem mem_eventPage {groupId : Option Id16} {after limit : ℤ} {row : EventRow}
    (hrow : row ∈ eventPage now deviceId groupId after limit db) :
    row ∈ db.groupEvents.rows := by
  cases groupId with
  | none => exact List.mem_of_mem_filter (Paging.mem_of_mem_pageOf hrow)
  | some groupId => exact List.mem_of_mem_filter (Paging.mem_of_mem_pageOf hrow)

theorem pageSize_single (hcarried : Carried db) {request : SyncRequest}
    (hone : asksForOne request) : pageSize now deviceId db request ≤ maxAnswerSize := by
  cases request with
  | keyPackage target => exact Nat.zero_le _
  | events groupId after limit =>
      have hpage : (eventPage now deviceId groupId after limit db).length ≤ 1 := by
        rw [← batchSize_of_le_one hone]
        cases groupId <;> exact List.length_take_le _ _
      have hsum := sum_le_of_single (fun row : EventRow => 30 + row.ciphertext.length)
        (maxAnswerSize - 38) hpage (by
          intro row hrow
          have hrowSize := hcarried.events row (mem_eventPage hrow)
          omega)
      simp only [pageSize]
      split
      · unfold maxAnswerSize at hsum ⊢
        omega
      · exact Nat.zero_le _
  | welcomes limit =>
      have hpage : (welcomePage now deviceId limit db).length ≤ 1 := by
        rw [← batchSize_of_le_one hone]
        exact List.length_take_le _ _
      have hsum := sum_le_of_single (fun row : WelcomeRow => 36 + row.welcome.length)
        (maxAnswerSize - 45) hpage (by
          intro row hrow
          have hrowSize := hcarried.welcomes row
            (List.mem_of_mem_filter (Paging.mem_of_mem_pageOf hrow))
          omega)
      simp only [pageSize]
      unfold maxAnswerSize at hsum ⊢
      omega

/-- Whatever is asked for one at a time is answered with a body that fits. -/
theorem answer_single (hcarried : Carried db) {frame response : TransportFrame}
    (hsingle : SingleRequest frame)
    (hresponse : (dispatch crypto moment frame db).1 = .ok response) :
    Encodes response := by
  obtain ⟨kind, handler, body, hroute, hanswer, rfl⟩ := dispatch_fst_eq_ok.mp hresponse
  apply encodes_of_length
  rcases hsingle with hkind | ⟨hkind, hone⟩
  · rw [route, hkind] at hroute
    cases hroute
    exact small_relayDirectoryRequest hcarried.toBounded hanswer
  · rw [route, hkind] at hroute
    cases hroute
    obtain ⟨token, unread, deviceId, request, htoken, -, hrequest, hsync⟩ :=
      syncRequest_fst_eq_ok.mp hanswer
    have hsize : pageSize moment.now deviceId db request ≤ maxAnswerSize :=
      pageSize_single hcarried (hone token unread request htoken hrequest)
    cases request with
    | events groupId after limit =>
        rw [performSync_events hsync]
        exact hsize
    | keyPackage target => exact performSync_keyPackage hcarried.toBounded hsync
    | welcomes limit =>
        rw [performSync_welcomes hsync]
        exact hsize

theorem deliverable_of_carried (hcarried : Carried db) : Deliverable crypto db where
  events := by
    intro row hrow operation clientMessageId
    have hsize := hcarried.events row hrow
    apply encodes_of_length
    simp only [encodeEvent, SyncEvent.ofRow, List.length_cons, List.length_append,
      length_toBigEndian, List.Vector.toList_length]
    omega
  welcomes := by
    intro row hrow clientMessageId
    have hsize := hcarried.welcomes row hrow
    apply encodes_of_length
    simp only [encodeWelcome, List.length_cons, List.length_append,
      length_toBigEndian, List.Vector.toList_length]
    omega
  packages := by
    intro row hrow clientMessageId
    have hsize := hcarried.packages row hrow
    apply encodes_of_length
    simp only [List.length_cons, List.length_append, List.Vector.toList_length]
    omega
  blobs := by
    intro account haccount blob hblob clientMessageId
    have hsize := hcarried.blobs account haccount blob hblob
    apply encodes_of_length
    simp only [List.length_cons]
    omega
  answers := fun _ _ _ hsingle hresponse => answer_single hcarried hsingle hresponse

end Answers

/-- After any requests every stored event, Welcome, key package and recovery
package can be returned in one frame, and every answer to a request for one of
them encodes. -/
theorem stored_items_deliverable (crypto : Crypto) (packets : List Packet) :
    Deliverable crypto (run (receive crypto) Database.migrated packets) :=
  deliverable_of_carried (carried_run crypto packets)

end ResilientMessenger.SingleItems
