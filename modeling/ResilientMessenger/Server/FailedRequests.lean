import ResilientMessenger.Server.RefreshFamilies
import ResilientMessenger.Server.StoredUploads

/-!
# What a refused request leaves behind

A request that is answered with an error should not have changed the database,
except that reuse of a refresh token revokes its family.  `dispatch_leaves` lists
all that an error can leave behind: nothing, a revoked family, a challenge that
was stored before the end of the body was read, or a cursor that was taken from
the sequence for a row the table then refused.  The sequence is outside every
transaction, so the last is no change of any row.
-/

namespace ResilientMessenger.FailedRequests

open ResilientMessenger.ByteCodec
open ResilientMessenger.ByteReader (decodeWith)
open ResilientMessenger.Frames
open ResilientMessenger.Identity
open ResilientMessenger.Schema
open ResilientMessenger.Backend
open ResilientMessenger.Dispatch
open ResilientMessenger.Transaction
open ResilientMessenger.StoredUploads

/-! ## The kinds of request whose error leaves a trace -/

/-- The body of a refresh: device, token and signature. -/
def RefreshBody (body : Bytes) (refreshToken : Id32) : Prop :=
  ∃ (deviceId : Id16) (signature : FixedBytes 64),
    body = deviceId.toList ++ (refreshToken.toList ++ signature.toList)

/-- A challenge request with octets after its device id, for an active device,
when the random values are new. -/
def OverlongChallenge (moment : Moment) (frame : TransportFrame) (db : Database) :
    Prop :=
  frame.kind = .authChallenge ∧
    ∃ (deviceId : Id16) (surplus : Bytes),
      frame.body = deviceId.toList ++ surplus ∧ surplus ≠ [] ∧
      (activeDevice db deviceId).isSome = true ∧
      db.authChallenges.lookup moment.randomId = none ∧
      ∀ row ∈ db.authChallenges.rows, row.challenge ≠ moment.firstRandom

/-- The table takes the event's row under the next cursor. -/
def Insertable (event : UploadedEvent) (db : Database) : Prop :=
  db.hasGroup event.groupId = true ∧ db.hasDevice event.authorDeviceId = true ∧
    db.groupEvents.lookup event.eventId = none ∧
    ∀ row ∈ db.groupEvents.rows, row.eventCursor ≠ db.eventSequence + 1

/-- An upload of a new event that passes every check and whose row the table
refuses. -/
def RefusedEvent (crypto : Crypto) (moment : Moment) (frame : TransportFrame)
    (db : Database) : Prop :=
  frame.kind = .uploadEnvelope ∧
    ∃ token unread, Body.array 32 frame.body = .ok (token, unread) ∧
    ∃ groupId eventId eventKind correlationId ciphertext,
      decodeWith UploadRequest.reader unread =
        .ok (.event groupId eventId eventKind correlationId ciphertext) ∧
    ∃ author, authenticateAccess crypto moment.now token db = .ok author ∧
    ∃ event : UploadedEvent, event = ⟨eventId, groupId, author,
        frame.clientMessageId, eventKind, ciphertext, correlationId⟩ ∧
      EventAdmitted event db ∧ earlierRow event db = none ∧ ¬Insertable event db

/-- The next cursor is taken from the sequence. -/
def numbered (db : Database) : Database :=
  { db with eventSequence := db.eventSequence + 1 }

/-- What a request answered with this error can leave behind. -/
inductive Leaves (crypto : Crypto) (moment : Moment) (frame : TransportFrame)
    (db : Database) : ApiError → Database → Prop
  | unchanged (failure : ApiError) : Leaves crypto moment frame db failure db
  | familyRevoked {refreshToken : Id32} {row : RefreshRow}
      (hkind : frame.kind = .authResponse)
      (hbody : RefreshBody frame.body refreshToken)
      (hrow : db.refreshSessions.lookup (tokenHash crypto "refresh" refreshToken) =
        some row) :
      Leaves crypto moment frame db .tokenReuse
        (revokeFamily moment.now row.familyId db)
  | challengeStored (authChallenges : Table ChallengeRow.challengeId)
      (hoverlong : OverlongChallenge moment frame db) :
      Leaves crypto moment frame db .invalidInput { db with authChallenges }
  | cursorSpent (failure : ApiError) (hrefused : RefusedEvent crypto moment frame db) :
      Leaves crypto moment frame db failure (numbered db)

/-! ## Errors of composed handlers -/

theorem reading_eq_error {α β : Type} {result : Except ApiError α} {db after : Database}
    {next : α → Except ApiError β × Database} {failure : ApiError}
    (herror : reading result db next = (.error failure, after)) :
    after = db ∨ ∃ value, result = .ok value ∧ next value = (.error failure, after) := by
  cases result with
  | error early =>
      cases herror
      exact .inl rfl
  | ok value => exact .inr ⟨value, rfl, herror⟩

/-- An error of a call followed by the building of the answer is the call's. -/
theorem andThen_answer_eq_error {α β : Type} {outcome : Except ApiError α × Database}
    {answer : α → β} {failure : ApiError} {after : Database}
    (herror : andThen outcome (fun value db => (.ok (answer value), db)) =
      (.error failure, after)) :
    outcome = (.error failure, after) := by
  obtain ⟨early | value, db⟩ := outcome
  · cases herror
    rfl
  · cases herror

theorem transaction_eq_error {α : Type} {state after : Database}
    {body : Database → Except ApiError (α × Database)} {failure : ApiError}
    (herror : transaction state body = (.error failure, after)) : after = state := by
  rcases transaction_cases state body with ⟨early, hearly⟩ |
    ⟨value, committed, -, hcommit⟩
  · rw [hearly] at herror
    cases herror
    rfl
  · rw [hcommit] at herror
    cases herror

/-- A transaction behind a check of the arguments. -/
theorem checked_eq_error {α : Type} {refused : Prop} [Decidable refused]
    {early failure : ApiError} {state after : Database}
    {body : Database → Except ApiError (α × Database)}
    (herror : (if refused then (.error early, state) else transaction state body) =
      (.error failure, after)) : after = state := by
  split at herror
  · cases herror
    rfl
  · exact transaction_eq_error herror

section Calls

variable {crypto : Crypto} {moment : Moment} {db after : Database}
  {failure : ApiError}

theorem registerAccountDevice_eq_error {accountId rootPublicKey : Id32}
    {cert : DeviceCertificate}
    (herror : registerAccountDevice crypto accountId rootPublicKey cert db =
      (.error failure, after)) : after = db := by
  unfold registerAccountDevice at herror
  exact checked_eq_error herror

theorem beginChallenge_eq_error {deviceId : Id16}
    (herror : beginChallenge moment deviceId db = (.error failure, after)) :
    after = db := by
  unfold beginChallenge at herror
  exact checked_eq_error herror

theorem completeChallenge_eq_error {challengeId : Id16} {signature : FixedBytes 64}
    (herror : completeChallenge crypto moment challengeId signature db =
      (.error failure, after)) : after = db :=
  transaction_eq_error herror

theorem rotateRefresh_eq_error {deviceId : Id16} {refreshToken : Id32}
    {signature : FixedBytes 64}
    (herror : rotateRefresh crypto moment deviceId refreshToken signature db =
      (.error failure, after)) :
    after = db ∨ failure = .tokenReuse ∧
      ∃ row, db.refreshSessions.lookup (tokenHash crypto "refresh" refreshToken) =
          some row ∧ after = revokeFamily moment.now row.familyId db := by
  rcases RefreshFamilies.rotateRefresh_cases crypto moment deviceId refreshToken
    signature db with ⟨_, -, hcase⟩ | ⟨row, hrow, hcase⟩ |
    ⟨_, _, _, _, -, -, -, -, hcase⟩
  · rw [hcase] at herror
    cases herror
    exact .inl rfl
  · rw [hcase] at herror
    cases herror
    exact .inr ⟨rfl, row, hrow, rfl⟩
  · rw [hcase] at herror
    cases herror

theorem publishKeyPackage_eq_error {deviceId packageId : Id16} {package : Bytes}
    {now : Time}
    (herror : publishKeyPackage now deviceId packageId package db =
      (.error failure, after)) : after = db := by
  unfold publishKeyPackage at herror
  split at herror
  · cases herror
    rfl
  split at herror
  · cases herror
    rfl
  split at herror
  · cases herror
  · cases herror
    rfl

theorem applyMembershipOperation_eq_error {now : Time} {request : MembershipOperation}
    (herror : applyMembershipOperation crypto now request db =
      (.error failure, after)) : after = db := by
  unfold applyMembershipOperation at herror
  exact checked_eq_error herror

theorem uploadWelcome_eq_error {now : Time} {author target group welcomeId : Id16}
    {welcome : Bytes}
    (herror : uploadWelcome now author target group welcomeId welcome db =
      (.error failure, after)) : after = db := by
  unfold uploadWelcome at herror
  exact checked_eq_error herror

theorem storeRecoveryPackage_eq_error {accountId recoveryIdentifier : Id32}
    {blob : Bytes}
    (herror : storeRecoveryPackage accountId recoveryIdentifier blob db =
      (.error failure, after)) : after = db := by
  unfold storeRecoveryPackage at herror
  split_ifs at herror <;> cases herror <;> rfl

theorem recordReceipts_eq_error {deviceId : Id16} {eventIds : List Id16}
    {receiptType : ℤ}
    (herror : recordReceipts deviceId eventIds receiptType db =
      (.error failure, after)) : after = db := by
  unfold recordReceipts at herror
  split at herror
  · cases herror
    rfl
  · cases herror

end Calls

/-! ## Events whose row is refused -/

section Events

variable {event : UploadedEvent} {now : Time} {db after : Database}
  {failure : ApiError}

/-- No row of the author has the client message id, so of all constraints only
those of `Insertable` can be violated. -/
theorem insertEvent_ok_iff (now : Time) (hnew : earlierRow event db = none) :
    (∃ next, (numbered db).insertEvent (event.row now (db.eventSequence + 1)) =
      .ok next) ↔ Insertable event db := by
  have hother : ∀ row ∈ db.groupEvents.rows,
      row.authorDeviceId = event.authorDeviceId →
        row.clientMessageId ≠ event.clientMessageId := by
    intro row hrow hauthor hclient
    have hpassed := List.find?_eq_none.mp hnew row hrow
    exact hpassed (decide_eq_true ⟨hauthor, hclient⟩)
  simp only [Database.insertEvent, bind_eq_ok, pure_eq_ok,
    Database.insertInto_eq_ok, Table.insert?_eq_some_iff]
  constructor
  · rintro ⟨_, groupEvents, ⟨hallowed, hfree, -⟩, -⟩
    simp only [Bool.and_eq_true, List.all_eq_true, decide_eq_true_eq] at hallowed
    obtain ⟨⟨hgroup, hdevice⟩, hrows⟩ := hallowed
    exact ⟨hgroup, hdevice, hfree, fun row hrow => (hrows row hrow).1⟩
  · rintro ⟨hgroup, hdevice, hfree, hcursors⟩
    obtain ⟨groupEvents, hinsert⟩ := Table.exists_insert?
      (show db.groupEvents.lookup (event.row now (db.eventSequence + 1)).eventId = none
        from hfree)
    refine ⟨_, groupEvents, ⟨?_, Table.insert?_eq_some_iff.mp hinsert⟩, rfl⟩
    simp only [Bool.and_eq_true, List.all_eq_true, decide_eq_true_eq]
    refine ⟨⟨hgroup, hdevice⟩, ?_⟩
    intro row hrow
    refine ⟨hcursors row hrow, ?_⟩
    by_cases hauthor : row.authorDeviceId = event.authorDeviceId
    · exact .inr (hother row hrow hauthor)
    · exact .inl hauthor

theorem insertEvent_eq_error {row : EventRow}
    (herror : db.insertEvent row = .error failure) : failure = .database := by
  rcases bind_eq_error.mp herror with hinto | ⟨_, -, hpure⟩
  · exact RefreshFamilies.insertInto_eq_error hinto
  · cases hpure

theorem checkUpload_new (hadmitted : EventAdmitted event db)
    (hnew : earlierRow event db = none) : checkUpload event db = .ok none := by
  have hearlier : earlierUpload event db = .ok none := by
    unfold earlierRow at hnew
    simp only [earlierUpload, hnew]
  exact bind_eq_ok.mpr ⟨(), hadmitted.2, hearlier⟩

theorem uploadEvent_refused (now : Time) (hadmitted : EventAdmitted event db)
    (hnew : earlierRow event db = none) (hrefused : ¬Insertable event db) :
    uploadEvent now event db = (.error .database, numbered db) := by
  rw [uploadEvent, if_neg hadmitted.1, checkUpload_new hadmitted hnew]
  apply transaction_of_error
  cases hinsert : (numbered db).insertEvent (event.row now (db.eventSequence + 1)) with
  | ok next => exact absurd ((insertEvent_ok_iff now hnew).mp ⟨next, hinsert⟩) hrefused
  | error failure =>
      rw [insertEvent_eq_error hinsert] at hinsert
      unfold numbered at hinsert
      rw [hinsert]
      rfl

theorem uploadEvent_eq_error
    (herror : uploadEvent now event db = (.error failure, after)) :
    after = db ∨ (EventAdmitted event db ∧ earlierRow event db = none ∧
      ¬Insertable event db) ∧ after = numbered db := by
  rcases Redelivery.uploadEvent_outcomes now event db with ⟨early, houtcome⟩ |
    ⟨hsize, ⟨cursor, -, houtcome⟩ | ⟨hcheck, ⟨refusal, hrefused, houtcome⟩ |
      ⟨inserted, -, houtcome⟩⟩⟩
  · rw [houtcome] at herror
    cases herror
    exact .inl rfl
  · rw [houtcome] at herror
    cases herror
  · rw [houtcome] at herror
    cases herror
    obtain ⟨admitted, hadmitted, hearlier⟩ := bind_eq_ok.mp hcheck
    have hnew := Redelivery.earlierUpload_eq_none hearlier
    refine .inr ⟨⟨⟨hsize, hadmitted⟩, hnew, ?_⟩, rfl⟩
    intro hinsertable
    obtain ⟨next, hinsert⟩ := (insertEvent_ok_iff now hnew).mpr hinsertable
    rw [numbered, hrefused] at hinsert
    cases hinsert
  · rw [houtcome] at herror
    cases herror

end Events

/-! ## Requests -/

section Requests

variable {crypto : Crypto} {moment : Moment} {frame : TransportFrame}
  {db after : Database} {failure : ApiError}

theorem leaves_of_eq (hafter : after = db) :
    Leaves crypto moment frame db failure after := by
  rw [hafter]
  exact .unchanged failure

theorem leaves_clientHello
    (herror : clientHello crypto frame.body db = (.error failure, after)) :
    Leaves crypto moment frame db failure after := by
  rcases reading_eq_error herror with hafter | ⟨request, -, herror⟩
  · exact leaves_of_eq hafter
  · exact leaves_of_eq
      (registerAccountDevice_eq_error (andThen_answer_eq_error herror))

theorem beginChallenge_eq_ok {deviceId : Id16} {challenge : Challenge}
    (hbegin : beginChallenge moment deviceId db = (.ok challenge, after)) :
    (activeDevice db deviceId).isSome = true ∧
      db.authChallenges.lookup moment.randomId = none ∧
      (∀ row ∈ db.authChallenges.rows, row.challenge ≠ moment.firstRandom) ∧
      ∃ authChallenges, after = { db with authChallenges } ∧
        authChallenges.lookup moment.randomId ≠ none := by
  unfold beginChallenge at hbegin
  split at hbegin
  · cases hbegin
  case isFalse hactive =>
    rcases transaction_cases db _ with ⟨failure, hfailure⟩ |
      ⟨value, committed, hbody, hcommit⟩
    · rw [hfailure] at hbegin
      cases hbegin
    · rw [hcommit] at hbegin
      cases hbegin
      simp only [Database.insertChallenge, bind_eq_ok, pure_eq_ok, Prod.mk.injEq,
        Database.insertInto_eq_ok] at hbody
      obtain ⟨_, ⟨authChallenges, ⟨hallowed, hinsert⟩, rfl⟩, -, rfl⟩ := hbody
      rw [Bool.not_eq_true, Option.isNone_eq_false_iff] at hactive
      simp only [Bool.and_eq_true, List.all_eq_true, decide_eq_true_eq] at hallowed
      refine ⟨hactive, (Table.insert?_eq_some_iff.mp hinsert).1, hallowed.2,
        authChallenges, rfl, ?_⟩
      rw [Table.lookup_insert? hinsert, if_pos rfl]
      exact Option.some_ne_none _

theorem leaves_authChallenge (hkind : frame.kind = .authChallenge)
    (herror : authChallenge moment frame.body db = (.error failure, after)) :
    Leaves crypto moment frame db failure after := by
  rcases reading_eq_error herror with hafter | ⟨⟨deviceId, surplus⟩, hread, herror⟩
  · exact leaves_of_eq hafter
  dsimp only at herror
  cases hbegin : beginChallenge moment deviceId db with
  | mk outcome stored =>
      rw [hbegin] at herror
      cases outcome with
      | error early =>
          cases herror
          exact leaves_of_eq (beginChallenge_eq_error hbegin)
      | ok challenge =>
          obtain ⟨hactive, hfresh, hunused, authChallenges, rfl, -⟩ :=
            beginChallenge_eq_ok hbegin
          -- the challenge is stored; only the check of the end of the body is left
          by_cases hsurplus : surplus = []
          · subst hsurplus
            cases herror
          · have hend : Body.finish surplus = .error .invalidInput := if_neg hsurplus
            simp only [andThen, reading, hend] at herror
            cases herror
            exact .challengeStored authChallenges ⟨hkind, deviceId, surplus,
              ByteReader.array_eq_ok.mp hread, hsurplus, hactive, hfresh, hunused⟩

theorem leaves_authResponse (hkind : frame.kind = .authResponse)
    (herror : authResponse crypto moment frame.body db = (.error failure, after)) :
    Leaves crypto moment frame db failure after := by
  have hissued := andThen_answer_eq_error herror
  split_ifs at hissued with hchallenge hrefresh
  · rcases reading_eq_error hissued with hafter | ⟨request, -, hcomplete⟩
    · exact leaves_of_eq hafter
    · exact leaves_of_eq (completeChallenge_eq_error hcomplete)
  · rcases reading_eq_error hissued with hafter |
      ⟨⟨deviceId, refreshToken, signature⟩, hread, hrotate⟩
    · exact leaves_of_eq hafter
    rcases rotateRefresh_eq_error hrotate with hafter | ⟨rfl, row, hrow, rfl⟩
    · exact leaves_of_eq hafter
    · obtain ⟨unread, hread⟩ := ByteReader.decodeWith_eq_ok.mp hread
      simp only [ByteReader.bind_eq_ok, ByteReader.pure_eq_ok, Body.array,
        ByteReader.array_eq_ok, Prod.mk.injEq] at hread
      obtain ⟨_, _, hbody, _, _, rfl, _, _, rfl, ⟨rfl, rfl, rfl⟩, rfl⟩ := hread
      refine .familyRevoked hkind ⟨deviceId, signature, ?_⟩ hrow
      -- the length of the body leaves no room for anything after the signature
      have hunread : unread = [] := by
        rw [hbody] at hrefresh
        simp only [List.length_append, List.Vector.toList_length] at hrefresh
        exact List.length_eq_zero_iff.mp (by omega)
      rw [hbody, hunread, List.append_nil]
  · cases hissued
    exact .unchanged _

theorem leaves_uploadEnvelope (hkind : frame.kind = .uploadEnvelope)
    (herror : uploadEnvelope crypto moment.now frame.clientMessageId frame.body db =
      (.error failure, after)) :
    Leaves crypto moment frame db failure after := by
  rcases reading_eq_error herror with hafter | ⟨⟨token, unread⟩, htoken, herror⟩
  · exact leaves_of_eq hafter
  rcases reading_eq_error herror with hafter | ⟨author, hauthor, herror⟩
  · exact leaves_of_eq hafter
  rcases reading_eq_error herror with hafter | ⟨request, hrequest, herror⟩
  · exact leaves_of_eq hafter
  have hperform := andThen_answer_eq_error herror
  cases request with
  | event groupId eventId eventKind correlationId ciphertext =>
      rcases uploadEvent_eq_error (andThen_answer_eq_error hperform) with
        hafter | ⟨hrefused, rfl⟩
      · exact leaves_of_eq hafter
      · exact .cursorSpent failure ⟨hkind, token, unread, htoken, groupId, eventId,
          eventKind, correlationId, ciphertext, hrequest, author, hauthor, _, rfl,
          hrefused⟩
  | keyPackage packageId package =>
      exact leaves_of_eq (publishKeyPackage_eq_error (andThen_answer_eq_error hperform))
  | group groupId =>
      rcases reading_eq_error hperform with hafter | ⟨accountId, -, hcreate⟩
      · exact leaves_of_eq hafter
      · exact leaves_of_eq (transaction_eq_error (andThen_answer_eq_error hcreate))
  | membership correlationId groupId targetDeviceId role remove signature =>
      exact leaves_of_eq
        (applyMembershipOperation_eq_error (andThen_answer_eq_error hperform))
  | welcome target group welcomeId welcome =>
      exact leaves_of_eq (uploadWelcome_eq_error (andThen_answer_eq_error hperform))
  | recovery recoveryIdentifier blob =>
      rcases reading_eq_error hperform with hafter | ⟨accountId, -, hstore⟩
      · exact leaves_of_eq hafter
      · exact leaves_of_eq
          (storeRecoveryPackage_eq_error (andThen_answer_eq_error hstore))

theorem leaves_syncRequest
    (herror : syncRequest crypto moment.now frame.body db = (.error failure, after)) :
    Leaves crypto moment frame db failure after := by
  rcases reading_eq_error herror with hafter | ⟨⟨token, unread⟩, -, herror⟩
  · exact leaves_of_eq hafter
  rcases reading_eq_error herror with hafter | ⟨deviceId, -, herror⟩
  · exact leaves_of_eq hafter
  rcases reading_eq_error herror with hafter | ⟨request, -, herror⟩
  · exact leaves_of_eq hafter
  cases request with
  | events groupId afterCursor limit =>
      rcases reading_eq_error herror with hafter | ⟨events, -, hanswer⟩
      · exact leaves_of_eq hafter
      · cases hanswer
  | keyPackage target =>
      simp only [performSync] at herror
      split at herror <;> cases herror
  | welcomes limit => cases herror

theorem leaves_relayDirectoryRequest
    (herror : relayDirectoryRequest frame.body db = (.error failure, after)) :
    Leaves crypto moment frame db failure after := by
  rcases reading_eq_error herror with hafter | ⟨recoveryIdentifier, -, herror⟩
  · exact leaves_of_eq hafter
  · split at herror <;> cases herror

theorem leaves_receiptBatch {receiptType : ℤ}
    (herror : receiptBatch crypto moment.now receiptType frame.body db =
      (.error failure, after)) :
    Leaves crypto moment frame db failure after := by
  rcases reading_eq_error herror with hafter | ⟨⟨token, unread⟩, -, herror⟩
  · exact leaves_of_eq hafter
  rcases reading_eq_error herror with hafter | ⟨deviceId, -, herror⟩
  · exact leaves_of_eq hafter
  rcases reading_eq_error herror with hafter | ⟨eventIds, -, herror⟩
  · exact leaves_of_eq hafter
  · exact leaves_of_eq (recordReceipts_eq_error (andThen_answer_eq_error herror))

/-- All that an error can leave behind. -/
theorem dispatch_leaves
    (herror : dispatch crypto moment frame db = (.error failure, after)) :
    Leaves crypto moment frame db failure after := by
  unfold dispatch at herror
  cases hroute : route crypto moment frame with
  | none =>
      rw [hroute] at herror
      cases herror
      exact .unchanged _
  | some routed =>
      obtain ⟨kind, handler⟩ := routed
      rw [hroute] at herror
      have hhandler := andThen_answer_eq_error herror
      unfold route at hroute
      split at hroute <;> cases hroute
      case h_1 => exact leaves_clientHello hhandler
      case h_2 hkind => exact leaves_authChallenge hkind hhandler
      case h_3 hkind => exact leaves_authResponse hkind hhandler
      case h_4 hkind => exact leaves_uploadEnvelope hkind hhandler
      case h_5 => exact leaves_syncRequest hhandler
      case h_6 => exact leaves_relayDirectoryRequest hhandler
      case h_7 => exact leaves_receiptBatch hhandler
      case h_8 => exact leaves_receiptBatch hhandler
      case h_9 => cases hhandler

/-- The handler's error is the request's. -/
theorem dispatch_of_route {kind : FrameType} {handler : Handler}
    (hroute : route crypto moment frame = some (kind, handler))
    (hhandler : handler db = (.error failure, after)) :
    dispatch crypto moment frame db = (.error failure, after) := by
  simp only [dispatch, hroute, hhandler, andThen]

theorem beginChallenge_of_fresh {deviceId : Id16}
    (hactive : (activeDevice db deviceId).isSome = true)
    (hfresh : db.authChallenges.lookup moment.randomId = none)
    (hunused : ∀ row ∈ db.authChallenges.rows, row.challenge ≠ moment.firstRandom) :
    ∃ challenge stored, beginChallenge moment deviceId db = (.ok challenge, stored) := by
  have hdevice : db.hasDevice deviceId = true := by
    obtain ⟨device, hfound⟩ := Option.isSome_iff_exists.mp hactive
    rw [Database.hasDevice, (Option.filter_eq_some_iff.mp hfound).1, Option.isSome_some]
  let row : ChallengeRow := ⟨moment.randomId, deviceId, moment.firstRandom,
    moment.now + seconds challengeTtlSeconds, none⟩
  obtain ⟨authChallenges, hinsert⟩ := Table.exists_insert?
    (show db.authChallenges.lookup row.challengeId = none from hfresh)
  have hstored : db.insertChallenge row = .ok { db with authChallenges } := by
    apply bind_eq_ok.mpr
    refine ⟨authChallenges, Database.insertInto_eq_ok.mpr ⟨?_, hinsert⟩, rfl⟩
    rw [Bool.and_eq_true, List.all_eq_true]
    exact ⟨hdevice, fun other hother => decide_eq_true (hunused other hother)⟩
  refine ⟨⟨moment.randomId, moment.firstRandom⟩, { db with authChallenges }, ?_⟩
  rw [beginChallenge, Option.isNone_eq_false_iff.mpr hactive, if_neg Bool.false_ne_true]
  apply transaction_of_ok
  exact bind_eq_ok.mpr ⟨_, hstored, rfl⟩

/-- The challenge of an overlong request is stored and the request refused. -/
theorem dispatch_overlong (crypto : Crypto)
    (hoverlong : OverlongChallenge moment frame db) :
    ∃ authChallenges, authChallenges ≠ db.authChallenges ∧
      dispatch crypto moment frame db =
        (.error .invalidInput, { db with authChallenges }) := by
  obtain ⟨hkind, deviceId, surplus, hbody, hsurplus, hactive, hfresh, hunused⟩ :=
    hoverlong
  obtain ⟨challenge, stored, hbegin⟩ := beginChallenge_of_fresh hactive hfresh hunused
  obtain ⟨-, -, -, authChallenges, rfl, hstored⟩ := beginChallenge_eq_ok hbegin
  refine ⟨authChallenges, ?_, ?_⟩
  · rintro rfl
    exact hstored hfresh
  · have hroute : route crypto moment frame =
        some (.authChallenge, authChallenge moment frame.body) := by
      simp only [route, hkind]
    have hread : Body.array 16 frame.body = .ok (deviceId, surplus) :=
      ByteReader.array_eq_ok.mpr hbody
    have hend : Body.finish surplus = .error .invalidInput := if_neg hsurplus
    apply dispatch_of_route hroute
    simp only [authChallenge, hread, reading, hbegin, andThen, hend]

/-- The cursor of a refused event is spent. -/
theorem dispatch_refused (hrefused : RefusedEvent crypto moment frame db) :
    dispatch crypto moment frame db = (.error .database, numbered db) := by
  obtain ⟨hkind, token, unread, htoken, groupId, eventId, eventKind, correlationId,
    ciphertext, hrequest, author, hauthor, _, rfl, hadmitted, hnew, hrefused⟩ := hrefused
  have hupload := uploadEvent_refused moment.now hadmitted hnew hrefused
  have hroute : route crypto moment frame = some (.uploadAccepted,
      uploadEnvelope crypto moment.now frame.clientMessageId frame.body) := by
    simp only [route, hkind]
  apply dispatch_of_route hroute
  simp only [uploadEnvelope, authenticated, htoken, reading, hauthor, hrequest,
    performUpload, hupload, andThen]

end Requests

/-! ## Refused requests -/

/-- The tables hold the same rows. -/
def SameRows (db after : Database) : Prop :=
  after = { db with eventSequence := after.eventSequence }

/-- Reuse of the refresh token in the body has revoked its family and changed
nothing else. -/
def FamilyRevoked (crypto : Crypto) (moment : Moment) (frame : TransportFrame)
    (db after : Database) : Prop :=
  ∃ refreshToken row, RefreshBody frame.body refreshToken ∧
    db.refreshSessions.lookup (tokenHash crypto "refresh" refreshToken) = some row ∧
    after = revokeFamily moment.now row.familyId db

/-- If the request is refused, no row has changed, but for a family revoked by
reuse of its token. -/
def RowsKept (crypto : Crypto) (moment : Moment) (frame : TransportFrame)
    (db : Database) : Prop :=
  ∀ failure after, dispatch crypto moment frame db = (.error failure, after) →
    SameRows db after ∨
      failure = .tokenReuse ∧ FamilyRevoked crypto moment frame db after

/-- If the request is refused, no cursor was taken. -/
def SequenceKept (crypto : Crypto) (moment : Moment) (frame : TransportFrame)
    (db : Database) : Prop :=
  ∀ failure after, dispatch crypto moment frame db = (.error failure, after) →
    after.eventSequence = db.eventSequence

/-- A refused request has changed no row, revoked families apart, exactly when it
is not an overlong challenge request for an active device.  A cursor is lost
exactly when the table refuses the row of a new event. -/
theorem refused_request_keeps_iff (crypto : Crypto) (moment : Moment)
    (frame : TransportFrame) (db : Database) :
    (RowsKept crypto moment frame db ↔ ¬OverlongChallenge moment frame db) ∧
      (SequenceKept crypto moment frame db ↔ ¬RefusedEvent crypto moment frame db) := by
  constructor
  · constructor
    · intro hkept hoverlong
      obtain ⟨authChallenges, hchanged, hdispatch⟩ :=
        dispatch_overlong crypto hoverlong
      rcases hkept _ _ hdispatch with hsame | ⟨hreuse, -⟩
      · exact hchanged (congrArg Database.authChallenges hsame)
      · cases hreuse
    · intro hshort failure after herror
      cases dispatch_leaves herror with
      | unchanged => exact .inl rfl
      | familyRevoked hkind hbody hrow => exact .inr ⟨rfl, _, _, hbody, hrow, rfl⟩
      | challengeStored authChallenges hoverlong => exact absurd hoverlong hshort
      | cursorSpent => exact .inl rfl
  · constructor
    · intro hkept hrefused
      have hspent := hkept _ _ (dispatch_refused hrefused)
      simp only [numbered] at hspent
      omega
    · intro hinserted failure after herror
      cases dispatch_leaves herror with
      | unchanged => rfl
      | familyRevoked => rfl
      | challengeStored => rfl
      | cursorSpent failure hrefused => exact absurd hrefused hinserted

/-- A challenge request for the device of the sample server with one octet too
many. -/
def overlongRequest : TransportFrame where
  version := 1
  kind := .authChallenge
  clientMessageId := FixedBytes.fill 16 9
  ttlSeconds := 60
  body := List.replicate 17 3

/-- The malformed request is refused and its challenge is in the table. -/
theorem overlong_challenge_stored :
    (dispatch Redelivery.sampleCrypto Redelivery.sampleMoment overlongRequest
        Redelivery.sampleServer).1 = .error .invalidInput ∧
      (dispatch Redelivery.sampleCrypto Redelivery.sampleMoment overlongRequest
        Redelivery.sampleServer).2.authChallenges.rows.length = 1 ∧
      ¬RowsKept Redelivery.sampleCrypto Redelivery.sampleMoment overlongRequest
        Redelivery.sampleServer := by
  have herror : (dispatch Redelivery.sampleCrypto Redelivery.sampleMoment
      overlongRequest Redelivery.sampleServer).1 = .error .invalidInput := by
    decide +kernel
  have hstored : (dispatch Redelivery.sampleCrypto Redelivery.sampleMoment
      overlongRequest Redelivery.sampleServer).2.authChallenges.rows.length = 1 := by
    decide +kernel
  refine ⟨herror, hstored, ?_⟩
  intro hkept
  rcases hkept _ _ (Prod.ext herror rfl) with hsame | ⟨hreuse, -⟩
  · have hlength := congrArg (fun db : Database => db.authChallenges.rows.length) hsame
    exact absurd (hstored.symm.trans hlength) (by decide)
  · cases hreuse

end ResilientMessenger.FailedRequests
