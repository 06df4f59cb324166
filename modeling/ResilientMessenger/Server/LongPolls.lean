import ResilientMessenger.Server.Endpoint

/-!
# Waiting for events

A long poll that found nothing waits for a notification.  `waiting_has_seen_all`
says that it can not miss one, whatever else goes on: as long as its connection
lasts and nothing has arrived, the database holds no event it had not seen, and
asking again would give the same empty page.  The one exception is a poll over
all groups of a device that has been admitted to another group meanwhile, since
a change of membership is announced to nobody.  `carried_out_once` is about the
second dispatch, which never repeats what the first one did.
-/

namespace ResilientMessenger.LongPolls

open ResilientMessenger.ByteCodec
open ResilientMessenger.ByteReader (decodeWith)
open ResilientMessenger.Frames
open ResilientMessenger.Identity
open ResilientMessenger.Schema
open ResilientMessenger.Backend
open ResilientMessenger.Dispatch
open ResilientMessenger.Calls
open ResilientMessenger.Responses
open ResilientMessenger.RequestedCalls
open ResilientMessenger.Endpoint
open ResilientMessenger.Runs

/-! ## What a request does to the events and the sessions -/

/-- No event is new and every access token is still known. -/
structure Settled (db next : Database) : Prop where
  events : ∀ row ∈ next.groupEvents.rows, row ∈ db.groupEvents.rows
  sessions : ∀ hash row, db.accessSessions.lookup hash = some row →
    next.accessSessions.lookup hash = some row

theorem settled_refl (db : Database) : Settled db db :=
  ⟨fun _ hrow => hrow, fun _ _ hlookup => hlookup⟩

theorem Settled.trans {first second third : Database} (hfirst : Settled first second)
    (hsecond : Settled second third) : Settled first third where
  events := fun row hrow => hfirst.events row (hsecond.events row hrow)
  sessions := fun hash row hlookup =>
    hsecond.sessions hash row (hfirst.sessions hash row hlookup)

section Requests

variable {crypto : Crypto} {moment : Moment} {db : Database}

theorem sessions_perform (call : Call) {hash : Id32} {row : AccessRow}
    (hlookup : db.accessSessions.lookup hash = some row) :
    (call.perform crypto moment db).accessSessions.lookup hash = some row := by
  have hextent := perform_extent crypto moment db call
  generalize hnext : call.perform crypto moment db = next at hextent ⊢
  cases call with
  | completeChallenge challengeId signature =>
      subst hnext
      rcases Sessions.completeChallenge_inserts challengeId signature with hsame |
        ⟨_, _, accessSessions, _, _, _, _, _, _, haccess, _, hafter⟩
      · rw [Call.perform, hsame]
        exact hlookup
      · rw [Call.perform, hafter]
        exact Table.lookup_kept haccess hlookup
  | rotateRefresh deviceId refreshToken signature =>
      subst hnext
      rcases Sessions.rotateRefresh_inserts deviceId refreshToken signature with
        ⟨_, hsame, _⟩ | ⟨_, _, accessSessions, _, _, _, _, haccess, _, _, hafter⟩
      · rw [Call.perform, hsame]
        exact hlookup
      · rw [Call.perform, hafter]
        exact Table.lookup_kept haccess hlookup
  | _ =>
      cases hextent
      exact hlookup

/-- An upload that announces nothing stores nothing. -/
theorem events_uploadEvent {now : Time} {event : UploadedEvent}
    (hsilent : uploadNotices now event db = []) :
    (uploadEvent now event db).2.groupEvents = db.groupEvents := by
  unfold uploadNotices at hsilent
  rcases Redelivery.uploadEvent_outcomes now event db with ⟨failure, houtcome⟩ |
    ⟨-, ⟨cursor, -, houtcome⟩ | ⟨-, ⟨failure, -, houtcome⟩ |
      ⟨stored, hinsert, houtcome⟩⟩⟩
  · rw [houtcome]
  · rw [houtcome]
  · rw [houtcome]
  · rw [houtcome] at hsilent
    simp at hsilent

theorem settled_serve {frame : TransportFrame}
    (hsilent : notices crypto moment frame db = []) :
    Settled db (serve crypto db ⟨moment, frame⟩) := by
  rw [serve_requested]
  unfold notices at hsilent
  cases hcall : requestedCall crypto moment.now frame db with
  | none => exact settled_refl db
  | some call =>
      refine ⟨?_, fun hash row => sessions_perform call⟩
      have hextent := perform_extent crypto moment db call
      simp only [carryOut]
      generalize hnext : call.perform crypto moment db = next at hextent ⊢
      cases call with
      | uploadEvent event =>
          subst hnext
          rw [hcall] at hsilent
          intro row hrow
          rw [Call.perform, events_uploadEvent hsilent] at hrow
          exact hrow
      | _ =>
          cases hextent
          exact fun row hrow => hrow

end Requests

/-- A label that announces nothing brings no event. -/
theorem settled_step (crypto : Crypto) (app : App) (label : Label)
    (hsilent : news crypto app label = []) :
    Settled app.db (step crypto app label).db := by
  rw [step_db]
  cases label with
  | dispatch id moment =>
      simp only [onDatabase]
      cases hdispatched : app.dispatched id with
      | none => exact settled_refl app.db
      | some pending =>
          rw [news, hdispatched] at hsilent
          exact settled_serve hsilent
  | cleanup now batch scan =>
      exact ⟨fun row hrow => List.mem_of_mem_filter hrow, fun _ _ hlookup => hlookup⟩
  | _ => exact ⟨fun row hrow => hrow, fun _ _ hlookup => hlookup⟩

/-! ## Empty pages -/

section Pages

variable {crypto : Crypto} {moment : Moment} {db : Database}
variable {frame response : TransportFrame}

theorem dispatch_syncRequest (hkind : frame.kind = .syncRequest) :
    (dispatch crypto moment frame db).1 = .ok response ↔
      ∃ token unread deviceId request answer,
        Body.array 32 frame.body = .ok (token, unread) ∧
        authenticateAccess crypto moment.now token db = .ok deviceId ∧
        decodeWith SyncRequest.reader unread = .ok request ∧
        (performSync moment.now deviceId request db).1 = .ok answer ∧
        response = ⟨1, .syncBatch, frame.clientMessageId, 0, answer⟩ := by
  rw [dispatch_fst_eq_ok]
  constructor
  · rintro ⟨kind, handler, answer, hroute, hanswer, rfl⟩
    rw [route, hkind] at hroute
    cases hroute
    obtain ⟨token, unread, deviceId, request, htoken, hdevice, hrequest, hsync⟩ :=
      syncRequest_fst_eq_ok.mp hanswer
    exact ⟨token, unread, deviceId, request, answer, htoken, hdevice, hrequest, hsync,
      rfl⟩
  · rintro ⟨token, unread, deviceId, request, answer, htoken, hdevice, hrequest, hsync,
      rfl⟩
    refine ⟨_, _, answer, ?_, syncRequest_fst_eq_ok.mpr
      ⟨token, unread, deviceId, request, htoken, hdevice, hrequest, hsync⟩, rfl⟩
    rw [route, hkind]

theorem kind_of_syncBatch (hanswer : (dispatch crypto moment frame db).1 = .ok response)
    (hbatch : response.kind = .syncBatch) : frame.kind = .syncRequest := by
  obtain ⟨kind, handler, answer, hroute, -, rfl⟩ := dispatch_fst_eq_ok.mp hanswer
  subst hbatch
  unfold route at hroute
  split at hroute <;> first | assumption | cases hroute

/-- Whether the request asks for this row. -/
def Asked (now : Time) (deviceId : Id16) (groupId : Option Id16) (after : ℤ)
    (db : Database) (row : EventRow) : Prop :=
  (match groupId with
    | some groupId => row.groupId = groupId
    | none => activeIn db deviceId row.groupId = true) ∧
    max after 0 < row.eventCursor ∧ now < row.expiresAt

theorem batchSize_pos (limit : ℤ) : 0 < batchSize limit := by
  unfold batchSize
  omega

theorem page_eq_nil_iff {now : Time} {after limit : ℤ} {visible : EventRow → Bool} :
    page now after limit visible db = [] ↔
      ∀ row ∈ db.groupEvents.rows,
        ¬(visible row = true ∧ max after 0 < row.eventCursor ∧ now < row.expiresAt) := by
  have hsize := batchSize_pos limit
  rw [page, Paging.pageOf_eq_take, List.take_eq_nil_iff, or_iff_right (by omega)]
  constructor
  · intro hnil row hrow hvisible
    have hmem : row ∈ Paging.inOrder EventRow.eventCursor
        (db.groupEvents.rows.filter fun row =>
          visible row ∧ max after 0 < row.eventCursor ∧ now < row.expiresAt) := by
      rw [Paging.mem_inOrder, List.mem_filter]
      exact ⟨hrow, decide_eq_true hvisible⟩
    rw [hnil] at hmem
    cases hmem
  · intro hnone
    rw [List.eq_nil_iff_forall_not_mem]
    intro row hrow
    obtain ⟨hmem, hvisible⟩ := List.mem_filter.mp (Paging.mem_inOrder.mp hrow)
    exact hnone row hmem (of_decide_eq_true hvisible)

theorem eventPage_eq_nil_iff {now : Time} {deviceId : Id16} {groupId : Option Id16}
    {after limit : ℤ} :
    eventPage now deviceId groupId after limit db = [] ↔
      ∀ row ∈ db.groupEvents.rows, ¬Asked now deviceId groupId after db row := by
  cases groupId with
  | none => exact page_eq_nil_iff
  | some groupId =>
      simp only [eventPage, Asked, page_eq_nil_iff, decide_eq_true_eq]

theorem performSync_events_eq_ok {now : Time} {deviceId : Id16}
    {groupId : Option Id16} {after limit : ℤ} {answer : Bytes} :
    (performSync now deviceId (.events groupId after limit) db).1 = .ok answer ↔
      groupId.all (activeIn db deviceId) = true ∧
        answer = (if groupId.isSome then 0 else 1) ::
          UInt8.ofNat (eventPage now deviceId groupId after limit db).length ::
            ((eventPage now deviceId groupId after limit db).map
              SyncEvent.ofRow).flatMap encodeEvent := by
  simp only [performSync, reading_fst_eq_ok]
  cases groupId with
  | none =>
      constructor
      · rintro ⟨events, hevents, hanswer⟩
        cases hevents
        cases hanswer
        refine ⟨rfl, ?_⟩
        rw [syncGlobal, List.length_map]
        rfl
      · rintro ⟨-, rfl⟩
        refine ⟨_, rfl, ?_⟩
        rw [syncGlobal, List.length_map]
        rfl
  | some groupId =>
      constructor
      · rintro ⟨events, hevents, hanswer⟩
        obtain ⟨hactive, rfl⟩ := syncGroup_eq_ok.mp hevents
        cases hanswer
        rw [List.length_map]
        exact ⟨hactive, rfl⟩
      · rintro ⟨hactive, rfl⟩
        refine ⟨_, syncGroup_eq_ok.mpr ⟨hactive, rfl⟩, ?_⟩
        rw [List.length_map]

/-- The answer to a request for events of which there are none. -/
def emptyAnswer (frame : TransportFrame) (groupId : Option Id16) : TransportFrame where
  version := 1
  kind := .syncBatch
  clientMessageId := frame.clientMessageId
  ttlSeconds := 0
  body := [if groupId.isSome then 0 else 1, 0]

theorem length_eventPage_le {now : Time} {deviceId : Id16} {groupId : Option Id16}
    {after limit : ℤ} :
    (eventPage now deviceId groupId after limit db).length ≤ 50 := by
  have hpage : ∀ visible, (page now after limit visible db).length ≤ 50 := by
    intro visible
    have hsize : batchSize limit ≤ 50 := by
      unfold batchSize maxSyncBatch
      omega
    rw [page, Paging.pageOf_eq_take]
    exact (List.length_take_le _ _).trans hsize
  cases groupId with
  | none => exact hpage _
  | some groupId => exact hpage _

/-- Only a request for events is worth waiting for, and only when there is none. -/
theorem dispatch_emptyPage (hanswer : (dispatch crypto moment frame db).1 = .ok response)
    (hempty : Phase.emptyPage response = true) :
    frame.kind = .syncRequest ∧
      ∃ token unread deviceId groupId after limit,
        Body.array 32 frame.body = .ok (token, unread) ∧
        authenticateAccess crypto moment.now token db = .ok deviceId ∧
        decodeWith SyncRequest.reader unread = .ok (.events groupId after limit) ∧
        eventPage moment.now deviceId groupId after limit db = [] ∧
        response = emptyAnswer frame groupId := by
  simp only [Phase.emptyPage, Bool.and_eq_true, Bool.or_eq_true, decide_eq_true_eq]
    at hempty
  obtain ⟨⟨hbatch, hfirst⟩, hsecond⟩ := hempty
  have hkind := kind_of_syncBatch hanswer hbatch
  refine ⟨hkind, ?_⟩
  obtain ⟨token, unread, deviceId, request, answer, htoken, hdevice, hrequest, hsync,
    rfl⟩ := (dispatch_syncRequest hkind).mp hanswer
  dsimp only at hfirst hsecond
  cases request with
  | keyPackage target =>
      simp only [performSync] at hsync
      split at hsync <;> cases hsync <;> simp at hfirst
  | welcomes limit =>
      cases hsync
      simp at hfirst
  | events groupId after limit =>
      obtain ⟨-, rfl⟩ := performSync_events_eq_ok.mp hsync
      have hlength : (eventPage moment.now deviceId groupId after limit db).length ≤ 50 :=
        length_eventPage_le
      have hnil : eventPage moment.now deviceId groupId after limit db = [] := by
        have hzero : UInt8.ofNat
            (eventPage moment.now deviceId groupId after limit db).length = 0 := by
          simpa using hsecond
        have hnat := congrArg UInt8.toNat hzero
        rw [UInt8.toNat_ofNat'] at hnat
        apply List.length_eq_zero_iff.mp
        rw [← Nat.mod_eq_of_lt (show (eventPage moment.now deviceId groupId after limit
          db).length < 2 ^ 8 by omega)]
        exact hnat
      refine ⟨token, unread, deviceId, groupId, after, limit, htoken, hdevice, hrequest,
        hnil, ?_⟩
      rw [hnil]
      rfl

/-- The device that signs the frame has been admitted to a group since. -/
def Admitted (crypto : Crypto) (now : Time) (frame : TransportFrame)
    (db next : Database) : Prop :=
  ∃ deviceId groupId, SignedIn crypto now frame.body next deviceId ∧
    activeIn next deviceId groupId = true ∧ activeIn db deviceId groupId = false

/-- As long as nothing is announced, a page that was empty stays empty, unless it
covers a group the device was not in before. -/
theorem dispatch_again {later : Moment} {next : Database} {answer : TransportFrame}
    (hfirst : (dispatch crypto moment frame db).1 = .ok response)
    (hempty : Phase.emptyPage response = true) (hsettled : Settled db next)
    (hlater : moment.now ≤ later.now)
    (hanswer : (dispatch crypto later frame next).1 = .ok answer) :
    answer = response ∨
      response.body.head? = some 1 ∧ Admitted crypto later.now frame db next := by
  obtain ⟨hkind, token, unread, deviceId, groupId, after, limit, htoken, hdevice,
    hrequest, hnil, rfl⟩ := dispatch_emptyPage hfirst hempty
  obtain ⟨token', unread', deviceId', request, encoded, htoken', hdevice', hrequest',
    hsync, rfl⟩ := (dispatch_syncRequest hkind).mp hanswer
  rw [htoken] at htoken'
  cases htoken'
  rw [hrequest] at hrequest'
  cases hrequest'
  have hsame : deviceId' = deviceId := by
    obtain ⟨row, hrow, rfl, -⟩ := Sessions.authenticateAccess_eq_ok.mp hdevice
    obtain ⟨row', hrow', rfl, -⟩ := Sessions.authenticateAccess_eq_ok.mp hdevice'
    rw [hsettled.sessions _ row hrow] at hrow'
    cases hrow'
    rfl
  subst hsame
  obtain ⟨-, rfl⟩ := performSync_events_eq_ok.mp hsync
  by_cases hagain : eventPage later.now deviceId' groupId after limit next = []
  · left
    rw [hagain]
    rfl
  rw [eventPage_eq_nil_iff] at hagain
  push Not at hagain
  obtain ⟨row, hrow, hasked, hcursor, hlive⟩ := hagain
  have hold := eventPage_eq_nil_iff.mp hnil row (hsettled.events row hrow)
  cases groupId with
  | some groupId => exact absurd ⟨hasked, hcursor, hlater.trans_lt hlive⟩ hold
  | none =>
      refine .inr ⟨rfl, deviceId', row.groupId, ⟨token, unread, htoken, hdevice'⟩,
        hasked, ?_⟩
      rw [Bool.eq_false_iff]
      intro hactive
      exact hold ⟨hactive, hcursor, hlater.trans_lt hlive⟩

end Pages

/-! ## No event is missed -/

/-- The poll `id` was dispatched with a listener, found nothing and has been waiting
since. -/
def Looked (crypto : Crypto) (labels : List Label) (id : ℕ) (frame : TransportFrame)
    (now : Database) : Prop :=
  ∃ before moment after subscribed response,
    labels = before ++ .dispatch id moment :: after ∧
    (run (step crypto) App.start before).dispatched id = some (frame, some subscribed) ∧
    (dispatch crypto moment frame (run (step crypto) App.start before).db).1 =
      .ok response ∧
    Phase.emptyPage response = true ∧
    Settled (run (step crypto) App.start before).db now

theorem Looked.append {crypto : Crypto} {labels : List Label} {id : ℕ}
    {frame : TransportFrame} {now next : Database}
    (hlooked : Looked crypto labels id frame now) (hsettled : Settled now next)
    (label : Label) : Looked crypto (labels ++ [label]) id frame next := by
  obtain ⟨before, moment, after, subscribed, response, rfl, hpending, hfirst, hempty,
    hsince⟩ := hlooked
  exact ⟨before, moment, after ++ [label], subscribed, response, by simp, hpending, hfirst,
    hempty, hsince.trans hsettled⟩

/-- What is known of a task: a listener that never lost its connection has one,
and a poll that heard nothing has nothing to hear. -/
def Informed (crypto : Crypto) (labels : List Label) (id : ℕ) (db : Database) :
    Phase → Prop
  | .ready frame listener =>
      ∀ subscribed ∈ listener, frame.kind = .syncRequest ∧
        (subscribed.steady = true → subscribed.connected = true)
  | .waiting frame listener =>
      listener.steady = true → listener.connected = true ∧
        (listener.inbox = [] → Looked crypto labels id frame db)
  | .subscribing frame => frame.kind = .syncRequest
  | _ => True

section Steps

variable {crypto : Crypto} {labels : List Label} {id : ℕ} {db next : Database}

theorem informed_stays {phase : Phase} (label : Label)
    (hinformed : Informed crypto labels id db phase) (hsettled : Settled db next) :
    Informed crypto (labels ++ [label]) id next phase := by
  cases phase with
  | ready frame listener => exact hinformed
  | waiting frame listener =>
      intro hsteady
      obtain ⟨hconnected, hlooked⟩ := hinformed hsteady
      exact ⟨hconnected, fun hempty => (hlooked hempty).append hsettled label⟩
  | decoded frame => trivial
  | subscribing frame => exact hinformed
  | woken frame => trivial
  | answered response => trivial

theorem informed_hears {phase : Phase} {announced : List Bytes} (label : Label)
    (hinformed : Informed crypto labels id db phase)
    (hsettled : announced = [] → Settled db next) :
    Informed crypto (labels ++ [label]) id next
      (phase.onListener (Listener.hear announced)) := by
  cases phase with
  | ready frame listener =>
      intro subscribed hsubscribed
      obtain ⟨earlier, hearlier, rfl⟩ := Option.mem_map.mp hsubscribed
      obtain ⟨hkind, hconnected⟩ := hinformed earlier hearlier
      refine ⟨hkind, ?_⟩
      unfold Listener.hear
      split
      · exact hconnected
      · exact hconnected
  | waiting frame listener =>
      intro hsteady
      have hsame : (listener.hear announced).steady = listener.steady := by
        unfold Listener.hear
        split <;> rfl
      obtain ⟨hconnected, hlooked⟩ := hinformed (hsame ▸ hsteady)
      have hheard : listener.hear announced =
          { listener with inbox := listener.inbox ++ announced } := by
        rw [Listener.hear, if_pos hconnected]
      rw [hheard]
      refine ⟨hconnected, ?_⟩
      intro hinbox
      obtain ⟨hempty, hsilent⟩ := List.append_eq_nil_iff.mp hinbox
      exact (hlooked hempty).append (hsettled hsilent) label
  | decoded frame => trivial
  | subscribing frame => exact hinformed
  | woken frame => trivial
  | answered response => trivial

theorem informed_reconnected {phase : Phase} {connected : Bool} {kept : ℕ}
    (label : Label) (hinformed : Informed crypto labels id db phase) :
    Informed crypto (labels ++ [label]) id next
      (phase.onListener fun listener => ⟨connected, false, listener.inbox.take kept⟩) := by
  cases phase with
  | ready frame listener =>
      intro subscribed hsubscribed
      obtain ⟨earlier, hearlier, rfl⟩ := Option.mem_map.mp hsubscribed
      exact ⟨(hinformed earlier hearlier).1, fun hsteady => by cases hsteady⟩
  | waiting frame listener => exact fun hsteady => by cases hsteady
  | decoded frame => trivial
  | subscribing frame => exact hinformed
  | woken frame => trivial
  | answered response => trivial

/-- A poll that starts to wait has just looked. -/
theorem informed_dispatched {app : App} {task : Task} {frame : TransportFrame}
    {listener : Option Listener} {moment : Moment}
    (happ : run (step crypto) App.start labels = app) (htask : app.tasks id = some task)
    (hinformed : Informed crypto labels id app.db task.phase)
    (hpending : task.phase.pending = some (frame, listener))
    (hnext : next = serve crypto app.db ⟨moment, frame⟩) :
    Informed crypto (labels ++ [.dispatch id moment]) id next
      (.afterDispatch frame listener (dispatch crypto moment frame app.db).1) := by
  cases hanswer : (dispatch crypto moment frame app.db).1 with
  | error failure => trivial
  | ok response =>
      simp only [Phase.afterDispatch]
      cases listener with
      | none => trivial
      | some subscribed =>
          dsimp only
          split
          case isFalse => trivial
          case isTrue hempty =>
            have hready : task.phase = .ready frame (some subscribed) := by
              cases hphase : task.phase <;> simp_all [Phase.pending]
            rw [hready] at hinformed
            obtain ⟨hkind, hconnected⟩ := hinformed subscribed rfl
            intro hsteady
            refine ⟨hconnected hsteady, fun _ => ?_⟩
            refine ⟨labels, moment, [], subscribed, response, rfl, ?_, ?_, hempty, ?_⟩
            · rw [happ, App.dispatched, htask]
              exact hpending
            · rw [happ]
              exact hanswer
            · rw [happ, hnext]
              apply settled_serve
              unfold notices
              split
              case h_1 event hcall =>
                have horigin := kind_of_requested hcall
                rw [hkind] at horigin
                cases horigin
              case h_2 => rfl

/-- What is known of a task stays known. -/
theorem informed_moves {app : App} {label : Label} {task task' : Option Task}
    (happ : run (step crypto) App.start labels = app)
    (hmoves : Moves crypto app id label task task') (htask : app.tasks id = task)
    (hinformed : ∀ known ∈ task, Informed crypto labels id app.db known.phase) :
    ∀ known ∈ task',
      Informed crypto (labels ++ [label]) id (step crypto app label).db known.phase := by
  intro known hknown
  cases hmoves with
  | hears =>
      obtain ⟨earlier, hearlier, rfl⟩ := Option.mem_map.mp hknown
      exact informed_hears label (hinformed earlier hearlier)
        (settled_step crypto app label)
  | stays _ _ hsilent =>
      exact informed_stays label (hinformed known hknown)
        (settled_step crypto app label hsilent)
  | malformed => cases hknown; trivial
  | arrived => cases hknown; trivial
  | refused => cases hknown; trivial
  | unsuitable => cases hknown; trivial
  | polls hkind => cases hknown; exact hkind
  | admitted =>
      cases hknown
      exact fun subscribed hsubscribed => by cases hsubscribed
  | listens =>
      cases hknown
      intro subscribed hsubscribed
      split at hsubscribed
      · cases hsubscribed
        exact ⟨hinformed _ rfl, fun _ => rfl⟩
      · cases hsubscribed
  | dispatched hpending =>
      cases hknown
      apply informed_dispatched happ htask (hinformed _ rfl) hpending
      rw [step_db]
      simp only [onDatabase, App.dispatched, htask, Option.bind_some, hpending]
      rfl
  | woken => cases hknown; trivial
  | reconnected =>
      cases hknown
      exact informed_reconnected _ (hinformed _ rfl)

end Steps

theorem informed_run (crypto : Crypto) (labels : List Label) :
    ∀ id, ∀ task ∈ (run (step crypto) App.start labels).tasks id,
      Informed crypto labels id (run (step crypto) App.start labels).db task.phase := by
  apply run_history (P := fun (labels : List Label) (app : App) =>
    ∀ id, ∀ task ∈ app.tasks id, Informed crypto labels id app.db task.phase)
  · intro id task htask
    cases htask
  · intro labels label hinformed id
    exact informed_moves rfl (step_moves label) rfl (hinformed id)

/-- A poll that waits on a connection that lasted and has heard nothing has seen
every event there is: when it was dispatched it found an empty page, every event that
is stored now was stored already, and looking again at any later time fails or finds
the same empty page.  A poll over all groups of a device may find more if the device
has been admitted to a group. -/
theorem waiting_has_seen_all (crypto : Crypto) (labels : List Label) (id : ℕ)
    (longPoll : Bool) (input : Bytes) (frame : TransportFrame) (listener : Listener)
    (hwaiting : (run (step crypto) App.start labels).tasks id =
      some ⟨longPoll, input, .waiting frame listener⟩)
    (hsteady : listener.steady = true) (hempty : listener.inbox = []) :
    ∃ before moment after subscribed response,
      labels = before ++ .dispatch id moment :: after ∧
      (run (step crypto) App.start before).dispatched id = some (frame, some subscribed) ∧
      (dispatch crypto moment frame (run (step crypto) App.start before).db).1 =
        .ok response ∧
      Phase.emptyPage response = true ∧
      (∀ row ∈ (run (step crypto) App.start labels).db.groupEvents.rows,
        row ∈ (run (step crypto) App.start before).db.groupEvents.rows) ∧
      ∀ later answer, moment.now ≤ later.now →
        (dispatch crypto later frame (run (step crypto) App.start labels).db).1 =
          .ok answer →
        answer = response ∨
          response.body.head? = some 1 ∧
            Admitted crypto later.now frame (run (step crypto) App.start before).db
              (run (step crypto) App.start labels).db := by
  have hinformed := informed_run crypto labels id _ hwaiting
  obtain ⟨before, moment, after, subscribed, response, hlabels, hpending, hfirst, hpage,
    hsettled⟩ := (hinformed hsteady).2 hempty
  refine ⟨before, moment, after, subscribed, response, hlabels, hpending, hfirst, hpage,
    hsettled.events, ?_⟩
  intro later answer hlater hanswer
  exact dispatch_again hfirst hpage hsettled hlater hanswer

/-- The group is polled by its founder. -/
def pollBody : Bytes :=
  List.replicate 32 0 ++ 0 :: (List.replicate 16 5 ++ List.replicate 8 0 ++ [50])

theorem earliestTime_le_zero : RateLimits.earliestTime ≤ 0 := by
  decide

def zeroTime : RateLimits.Timestamp := ⟨0, earliestTime_le_zero⟩

/-- A request that is handled from its arrival to its answer. -/
def handled (id : ℕ) (kind : FrameType) (body : Bytes) : List Label :=
  [.arrive id false (sessionPacket kind body).input, .count id zeroTime,
    .dispatch id sessionMoment]

/-- A device signs in, founds a group and polls it. -/
def quietPoll : List Label :=
  handled 0 .clientHello (neutralAccount.toList ++
      SignatureScheme.neutralKey.toList ++ List.replicate 16 3 ++
      SignatureScheme.neutralKey.toList ++ List.replicate 8 0 ++
      SignatureScheme.neutralSignature.toList) ++
    handled 1 .authChallenge (List.replicate 16 3) ++
    handled 2 .authResponse (List.replicate 16 6 ++
      SignatureScheme.neutralSignature.toList) ++
    handled 3 .uploadEnvelope (List.replicate 32 0 ++ 3 :: List.replicate 16 5) ++
    [.arrive 4 true (sessionPacket .syncRequest pollBody).input, .count 4 zeroTime,
      .listen 4 true, .dispatch 4 sessionMoment]

theorem quiet_poll_has_seen_all :
    ∃ before moment after subscribed response,
      quietPoll = before ++ .dispatch 4 moment :: after ∧
      (run (step sessionCrypto) App.start before).dispatched 4 =
        some (sessionFrame .syncRequest pollBody, some subscribed) ∧
      (dispatch sessionCrypto moment (sessionFrame .syncRequest pollBody)
        (run (step sessionCrypto) App.start before).db).1 = .ok response ∧
      Phase.emptyPage response = true ∧
      (∀ row ∈ (run (step sessionCrypto) App.start quietPoll).db.groupEvents.rows,
        row ∈ (run (step sessionCrypto) App.start before).db.groupEvents.rows) ∧
      ∀ later answer, moment.now ≤ later.now →
        (dispatch sessionCrypto later (sessionFrame .syncRequest pollBody)
          (run (step sessionCrypto) App.start quietPoll).db).1 = .ok answer →
        answer = response ∨
          response.body.head? = some 1 ∧
            Admitted sessionCrypto later.now (sessionFrame .syncRequest pollBody)
              (run (step sessionCrypto) App.start before).db
              (run (step sessionCrypto) App.start quietPoll).db :=
  waiting_has_seen_all sessionCrypto quietPoll 4 true
    (sessionPacket .syncRequest pollBody).input (sessionFrame .syncRequest pollBody)
    Listener.subscribed (by decide +kernel) rfl rfl

/-! ## A request is carried out once -/

/-- For every dispatch of the task, whether it changes the database. -/
def carriedOut (crypto : Crypto) (id : ℕ) (app : App) : Label → Option Bool
  | .dispatch target moment =>
      if target = id ∧ (app.dispatched id).isSome then
        some ((step crypto app (.dispatch target moment)).db ≠ app.db)
      else none
  | _ => none

/-- The frame asks for events. -/
def AsksEvents (frame : TransportFrame) : Prop :=
  frame.kind = .syncRequest ∧ ∃ token unread groupId after limit,
    Body.array 32 frame.body = .ok (token, unread) ∧
      decodeWith SyncRequest.reader unread = .ok (.events groupId after limit)

theorem serve_asksEvents {crypto : Crypto} {moment : Moment} {frame : TransportFrame}
    {db : Database} (hasks : AsksEvents frame) :
    serve crypto db ⟨moment, frame⟩ = db := by
  obtain ⟨hkind, token, unread, groupId, after, limit, htoken, hrequest⟩ := hasks
  have hnone : requestedCall crypto moment.now frame db = none := by
    simp only [requestedCall, hkind]
    cases hsigned : signedIn crypto moment.now frame.body db with
    | none => rfl
    | some caller =>
        obtain ⟨deviceId, rest⟩ := caller
        obtain ⟨token', htoken', -⟩ := signedIn_eq_some.mp hsigned
        rw [htoken] at htoken'
        cases htoken'
        rw [Option.bind_eq_bind, Option.bind_some, hrequest]
        rfl
  rw [serve_requested, hnone]
  rfl

/-- What the dispatches so far did, in each phase. -/
def Carried (done : List Bool) : Phase → Prop
  | .waiting frame _ => done = [false] ∧ AsksEvents frame
  | .woken frame => done = [false] ∧ AsksEvents frame
  | .answered _ => done.length ≤ 1 ∨ done = [false, false]
  | _ => done = []

theorem carried_onListener {done : List Bool} {phase : Phase}
    {change : Listener → Listener} (hcarried : Carried done phase) :
    Carried done (phase.onListener change) := by
  cases phase <;> exact hcarried

theorem carried_dispatched {crypto : Crypto} {moment : Moment} {db : Database}
    {done : List Bool} {phase : Phase} {frame : TransportFrame}
    {listener : Option Listener} (hcarried : Carried done phase)
    (hpending : phase.pending = some (frame, listener)) :
    Carried (done ++ [decide (serve crypto db ⟨moment, frame⟩ ≠ db)])
      (.afterDispatch frame listener (dispatch crypto moment frame db).1) := by
  -- A task that was woken has no listener any more, so the second dispatch answers.
  cases phase with
  | woken frame =>
      cases hpending
      obtain ⟨rfl, hasks⟩ := hcarried
      rw [serve_asksEvents hasks]
      cases (dispatch crypto moment frame db).1 with
      | error failure => exact .inr (by simp)
      | ok response => exact .inr (by simp)
  | ready frame listener =>
      cases hpending
      rw [show done = [] from hcarried, List.nil_append]
      cases hanswer : (dispatch crypto moment frame db).1 with
      | error failure => exact .inl le_rfl
      | ok response =>
          simp only [Phase.afterDispatch]
          cases listener with
          | none => exact .inl le_rfl
          | some subscribed =>
              dsimp only
              split
              case isFalse => exact .inl le_rfl
              case isTrue hempty =>
                obtain ⟨hkind, token, unread, deviceId, groupId, after, limit, htoken, -,
                  hrequest, -, -⟩ := dispatch_emptyPage hanswer hempty
                have hasks : AsksEvents frame :=
                  ⟨hkind, token, unread, groupId, after, limit, htoken, hrequest⟩
                refine ⟨?_, hasks⟩
                rw [serve_asksEvents hasks]
                simp
  | _ => cases hpending

theorem carriedOut_idle {crypto : Crypto} {app : App} {label : Label} {id : ℕ}
    (hidle : ∀ moment, label = .dispatch id moment → app.dispatched id = none) :
    carriedOut crypto id app label = none := by
  cases label with
  | dispatch target moment =>
      simp only [carriedOut]
      apply if_neg
      rintro ⟨rfl, hpending⟩
      rw [hidle moment rfl] at hpending
      cases hpending
  | _ => rfl

/-- A task that does not exist yet has not been dispatched. -/
def CarriedBy (done : List Bool) : Option Task → Prop
  | none => done = []
  | some task => Carried done task.phase

theorem carriedOut_moves {crypto : Crypto} {app : App} {label : Label} {id : ℕ}
    {task task' : Option Task} {done : List Bool}
    (hmoves : Moves crypto app id label task task') (htask : app.tasks id = task)
    (hcarried : CarriedBy done task) :
    CarriedBy (done ++ (carriedOut crypto id app label).toList) task' := by
  cases hmoves with
  | hears _ hidle =>
      rw [carriedOut_idle hidle, Option.toList_none, List.append_nil]
      cases task with
      | none => exact hcarried
      | some known => exact carried_onListener hcarried
  | stays _ hidle hsilent =>
      rw [carriedOut_idle hidle, Option.toList_none, List.append_nil]
      exact hcarried
  | dispatched hpending =>
      rename_i known frame listener moment
      have hdispatched : app.dispatched id = some (frame, listener) := by
        rw [App.dispatched, htask, Option.bind_some, hpending]
      have hdb : (step crypto app (.dispatch id moment)).db =
          serve crypto app.db ⟨moment, frame⟩ := by
        rw [step_db, onDatabase, hdispatched]
        rfl
      have hchange : carriedOut crypto id app (.dispatch id moment) =
          some (decide (serve crypto app.db ⟨moment, frame⟩ ≠ app.db)) := by
        rw [carriedOut, if_pos ⟨rfl, by rw [hdispatched]; rfl⟩, hdb]
      rw [hchange]
      exact carried_dispatched hcarried hpending
  | malformed =>
      rw [show done = [] from hcarried]
      exact .inl (Nat.zero_le 1)
  | refused =>
      rw [show done = [] from hcarried]
      exact .inl (Nat.zero_le 1)
  | unsuitable =>
      rw [show done = [] from hcarried]
      exact .inl (Nat.zero_le 1)
  | reconnected =>
      simp only [carriedOut, Option.toList_none, List.append_nil]
      exact carried_onListener hcarried
  | _ =>
      simp only [carriedOut, Option.toList_none, List.append_nil]
      exact hcarried

/-- Every request is dispatched at most twice and changes the database at most
once.  One that is dispatched twice does not change it at all. -/
theorem carried_out_once (crypto : Crypto) (labels : List Label) (id : ℕ) :
    (picked (step crypto) (carriedOut crypto id) App.start labels).length ≤ 1 ∨
      picked (step crypto) (carriedOut crypto id) App.start labels = [false, false] := by
  have hcarried : CarriedBy (picked (step crypto) (carriedOut crypto id) App.start labels)
      ((run (step crypto) App.start labels).tasks id) := by
    apply run_history (P := fun (labels : List Label) (app : App) =>
      CarriedBy (picked (step crypto) (carriedOut crypto id) App.start labels)
        (app.tasks id))
    · rfl
    · intro labels label hcarried
      rw [picked_concat]
      exact carriedOut_moves (step_moves label) rfl hcarried
  cases htask : (run (step crypto) App.start labels).tasks id with
  | none =>
      rw [htask] at hcarried
      exact .inl (by rw [show picked _ _ _ _ = [] from hcarried]; exact Nat.zero_le 1)
  | some task =>
      rw [htask] at hcarried
      generalize picked (step crypto) (carriedOut crypto id) App.start labels = done
        at hcarried ⊢
      simp only [CarriedBy] at hcarried
      cases hphase : task.phase with
      | waiting frame listener =>
          rw [hphase] at hcarried
          exact .inl (by rw [hcarried.1]; exact le_rfl)
      | woken frame =>
          rw [hphase] at hcarried
          exact .inl (by rw [hcarried.1]; exact le_rfl)
      | answered response =>
          rw [hphase] at hcarried
          exact hcarried
      | _ =>
          rw [hphase] at hcarried
          exact .inl (by rw [show done = [] from hcarried]; exact Nat.zero_le 1)

end ResilientMessenger.LongPolls
