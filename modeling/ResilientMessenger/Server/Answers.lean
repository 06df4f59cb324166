import ResilientMessenger.Server.LongPolls

/-!
# What the handler answers

Whatever a client sends and however the requests interleave, `answer_echoes` says
what the handler gives back: an error under the message id of the frame, or what the
last dispatch of the frame returned.  `metrics_exact` says that the two metrics are
the numbers of requests and of refused requests, since every request is answered
once.
-/

namespace ResilientMessenger.Answers

open ResilientMessenger.ByteCodec
open ResilientMessenger.Frames
open ResilientMessenger.Identity
open ResilientMessenger.Schema
open ResilientMessenger.Backend
open ResilientMessenger.Dispatch
open ResilientMessenger.Responses
open ResilientMessenger.Endpoint
open ResilientMessenger.Runs

/-! ## One answer -/

/-- The kind of answer to a request of this kind. -/
def answerKind : FrameType → Option FrameType
  | .clientHello => some .serverHello
  | .authChallenge => some .authChallenge
  | .authResponse => some .authAccepted
  | .uploadEnvelope => some .uploadAccepted
  | .syncRequest => some .syncBatch
  | .relayDirectoryRequest => some .relayDirectoryResponse
  | .deliveryReceiptBatch => some .deliveryReceiptBatch
  | .readReceiptBatch => some .readReceiptBatch
  | .ping => some .pong
  | _ => none

/-- An error under the id of the frame. -/
def Refused (frame : TransportFrame) (status : StatusCode) (code : ErrorCode)
    (response : Response) : Prop :=
  response.status = status ∧
    TransportFrame.decode response.body = .ok (errorFrame frame.clientMessageId code)

/-- The frame is refused before it is dispatched. -/
def TurnedAway (longPoll : Bool) (frame : TransportFrame) (response : Response) : Prop :=
  Refused frame .tooManyRequests .rateLimited response ∨
    longPoll = true ∧ frame.kind ≠ .syncRequest ∧
      Refused frame .badRequest .malformed response

/-- The response passes on what a dispatch of the frame returned.  An answer that does
not fit into a frame is left out, and then the response is empty. -/
def Echoes (frame : TransportFrame) (result : Except ApiError TransportFrame)
    (response : Response) : Prop :=
  match result with
  | .ok answer =>
      response.status = .ok ∧ answer.clientMessageId = frame.clientMessageId ∧
        answerKind frame.kind = some answer.kind ∧
        if answer.body.length ≤ maxAnswerSize then
          TransportFrame.decode response.body = .ok answer
        else response.body = []
  | .error failure => Refused frame (mapError failure).1 (mapError failure).2 response

theorem decode_errorFrame (clientMessageId : Id16) (code : ErrorCode) :
    TransportFrame.decode (cborResponse (errorFrame clientMessageId code)) =
      .ok (errorFrame clientMessageId code) := by
  rw [decode_cborResponse rfl rfl]
  exact (by decide : 1 ≤ maxAnswerSize)

theorem refused_errorResponse (frame : TransportFrame) (status : StatusCode)
    (code : ErrorCode) :
    Refused frame status code (errorResponse status frame.clientMessageId code) :=
  ⟨rfl, decode_errorFrame frame.clientMessageId code⟩

theorem status_mapError (failure : ApiError) : (mapError failure).1 ≠ .ok := by
  cases failure <;> decide

/-- A frame with a version of its own that does not encode is written as
nothing. -/
theorem cborResponse_of_large {frame : TransportFrame}
    (hlarge : maxAnswerSize < frame.body.length) (hversion : frame.version = 1) :
    cborResponse frame = [] := by
  unfold cborResponse
  split
  case h_1 body hencode =>
    have hdecode : TransportFrame.decode body = .ok frame :=
      frame_decode_eq_ok.mpr ⟨hversion, hencode⟩
    exact absurd (body_length_le hdecode) (not_le.mpr hlarge)
  case h_2 => rfl

theorem echoes_dispatch {crypto : Crypto} {moment : Moment} {db : Database}
    {frame answer : TransportFrame}
    (hanswer : (dispatch crypto moment frame db).1 = .ok answer) :
    Echoes frame (.ok answer) ⟨.ok, cborResponse answer⟩ := by
  obtain ⟨kind, handler, body, hroute, -, rfl⟩ := dispatch_fst_eq_ok.mp hanswer
  have hkind : answerKind frame.kind = some kind := by
    unfold route at hroute
    split at hroute <;> cases hroute <;> rename_i hkind <;> rw [hkind] <;> rfl
  refine ⟨rfl, rfl, hkind, ?_⟩
  split
  case isTrue hsmall => exact (decode_cborResponse rfl rfl).mpr hsmall
  case isFalse hlarge => exact cborResponse_of_large (not_le.mp hlarge) rfl

/-- A dispatch that answers the task passes on what it returned. -/
theorem echoes_afterDispatch {crypto : Crypto} {moment : Moment} {db : Database}
    {frame : TransportFrame} {listener : Option Listener} {response : Response}
    (hphase : Phase.afterDispatch frame listener (dispatch crypto moment frame db).1 =
      .answered response) :
    Echoes frame (dispatch crypto moment frame db).1 response := by
  cases hresult : (dispatch crypto moment frame db).1 with
  | error failure =>
      rw [hresult] at hphase
      cases hphase
      exact refused_errorResponse frame _ _
  | ok answer =>
      have hechoes := echoes_dispatch hresult
      rw [hresult] at hphase
      cases listener with
      | none =>
          cases hphase
          exact hechoes
      | some subscribed =>
          simp only [Phase.afterDispatch] at hphase
          split at hphase
          · cases hphase
          · cases hphase
            exact hechoes

/-! ## Every answer -/

/-- The frame a task works on is the one that was sent, and so is the one that is
answered; `Q` is what is known of an answer that comes from a dispatch. -/
def Faithful (Q : TransportFrame → Response → Prop) (longPoll : Bool) (input : Bytes) :
    Phase → Prop
  | .decoded frame => TransportFrame.decode input = .ok frame
  | .subscribing frame => TransportFrame.decode input = .ok frame
  | .ready frame _ => TransportFrame.decode input = .ok frame
  | .waiting frame _ => TransportFrame.decode input = .ok frame
  | .woken frame => TransportFrame.decode input = .ok frame
  | .answered response =>
      (∃ frame, TransportFrame.decode input = .ok frame ∧
        (TurnedAway longPoll frame response ∨ Q frame response)) ∨
        (∀ frame, TransportFrame.decode input ≠ .ok frame) ∧
          response = errorResponse .badRequest (FixedBytes.fill 16 0) .malformed

section Faithfulness

variable {Q Q' : TransportFrame → Response → Prop} {longPoll : Bool} {input : Bytes}

theorem faithful_mono (hweaker : ∀ frame response, Q frame response → Q' frame response)
    {phase : Phase} (hfaithful : Faithful Q longPoll input phase) :
    Faithful Q' longPoll input phase := by
  cases phase with
  | answered response =>
      rcases hfaithful with ⟨frame, hdecode, haway | hanswered⟩ | hmalformed
      · exact .inl ⟨frame, hdecode, .inl haway⟩
      · exact .inl ⟨frame, hdecode, .inr (hweaker frame response hanswered)⟩
      · exact .inr hmalformed
  | _ => exact hfaithful

theorem faithful_onListener {phase : Phase} {change : Listener → Listener}
    (hfaithful : Faithful Q longPoll input phase) :
    Faithful Q longPoll input (phase.onListener change) := by
  cases phase <;> exact hfaithful

theorem decode_of_pending {phase : Phase} {frame : TransportFrame}
    {listener : Option Listener} (hfaithful : Faithful Q longPoll input phase)
    (hpending : phase.pending = some (frame, listener)) :
    TransportFrame.decode input = .ok frame := by
  cases phase <;> cases hpending <;> exact hfaithful

theorem faithful_dispatched {frame : TransportFrame} {listener : Option Listener}
    {result : Except ApiError TransportFrame}
    (hdecode : TransportFrame.decode input = .ok frame)
    (hanswered : ∀ response, Phase.afterDispatch frame listener result = .answered response →
      Q frame response) :
    Faithful Q longPoll input (.afterDispatch frame listener result) := by
  cases result with
  | error failure => exact .inl ⟨frame, hdecode, .inr (hanswered _ rfl)⟩
  | ok answer =>
      cases listener with
      | none => exact .inl ⟨frame, hdecode, .inr (hanswered _ rfl)⟩
      | some subscribed =>
          simp only [Phase.afterDispatch] at hanswered ⊢
          split
          case isTrue => exact hdecode
          case isFalse hpage =>
            rw [if_neg hpage] at hanswered
            exact .inl ⟨frame, hdecode, .inr (hanswered _ rfl)⟩

theorem faithful_moves {crypto : Crypto} {app : App} {label : Label} {id : ℕ}
    {task task' : Option Task} (hmoves : Moves crypto app id label task task')
    (hweaker : ∀ frame response, Q frame response → Q' frame response)
    (hanswered : ∀ known ∈ task, ∀ frame listener moment response,
      label = .dispatch id moment → known.phase.pending = some (frame, listener) →
      Phase.afterDispatch frame listener (dispatch crypto moment frame app.db).1 =
        .answered response → Q' frame response)
    (hfaithful : ∀ known ∈ task, Faithful Q known.longPoll known.input known.phase) :
    ∀ known ∈ task', Faithful Q' known.longPoll known.input known.phase := by
  intro known hknown
  cases hmoves with
  | hears =>
      obtain ⟨earlier, hearlier, rfl⟩ := Option.mem_map.mp hknown
      exact faithful_onListener (faithful_mono hweaker (hfaithful earlier hearlier))
  | stays => exact faithful_mono hweaker (hfaithful known hknown)
  | malformed hdecode =>
      cases hknown
      exact .inr ⟨hdecode, rfl⟩
  | arrived hdecode =>
      cases hknown
      exact hdecode
  | refused =>
      have hearlier := hfaithful _ rfl
      cases hknown
      exact .inl ⟨_, hearlier, .inl (.inl (refused_errorResponse _ _ _))⟩
  | unsuitable hkind =>
      have hearlier := hfaithful _ rfl
      cases hknown
      exact .inl ⟨_, hearlier,
        .inl (.inr ⟨rfl, hkind, refused_errorResponse _ _ _⟩)⟩
  | dispatched hpending =>
      have hearlier := hfaithful _ rfl
      cases hknown
      apply faithful_dispatched (decode_of_pending hearlier hpending)
      exact fun response hphase => hanswered _ rfl _ _ _ response rfl hpending hphase
  | reconnected =>
      have hearlier := hfaithful _ rfl
      cases hknown
      exact faithful_onListener (faithful_mono hweaker hearlier)
  | polls =>
      have hearlier := hfaithful _ rfl
      cases hknown
      exact hearlier
  | admitted =>
      have hearlier := hfaithful _ rfl
      cases hknown
      exact hearlier
  | listens =>
      have hearlier := hfaithful _ rfl
      cases hknown
      exact hearlier
  | woken =>
      have hearlier := hfaithful _ rfl
      cases hknown
      exact hearlier

end Faithfulness

/-- The task was answered by its last dispatch, with what that returned. -/
def Passed (crypto : Crypto) (labels : List Label) (id : ℕ) (frame : TransportFrame)
    (response : Response) : Prop :=
  ∃ before moment after listener, labels = before ++ .dispatch id moment :: after ∧
    (run (step crypto) App.start before).dispatched id = some (frame, listener) ∧
    Phase.afterDispatch frame listener
        (dispatch crypto moment frame (run (step crypto) App.start before).db).1 =
      .answered response ∧
    Echoes frame (dispatch crypto moment frame (run (step crypto) App.start before).db).1
      response

theorem Passed.append {crypto : Crypto} {labels : List Label} {id : ℕ}
    {frame : TransportFrame} {response : Response}
    (hpassed : Passed crypto labels id frame response) (more : List Label) :
    Passed crypto (labels ++ more) id frame response := by
  obtain ⟨before, moment, after, listener, rfl, hpending, hphase, hechoes⟩ := hpassed
  exact ⟨before, moment, after ++ more, listener, by simp, hpending, hphase, hechoes⟩

theorem faithful_run (crypto : Crypto) (labels : List Label) (id : ℕ) :
    ∀ task ∈ (run (step crypto) App.start labels).tasks id,
      Faithful (Passed crypto labels id) task.longPoll task.input task.phase := by
  apply run_history (P := fun (labels : List Label) (app : App) => ∀ task ∈ app.tasks id,
    Faithful (Passed crypto labels id) task.longPoll task.input task.phase)
  · intro task htask
    cases htask
  · intro labels label hfaithful
    apply faithful_moves (step_moves label) _ _ hfaithful
    · exact fun frame response hpassed => hpassed.append [label]
    · rintro known hknown frame listener moment response rfl hpending hphase
      have hdispatched : (run (step crypto) App.start labels).dispatched id =
          some (frame, listener) := by
        rw [App.dispatched, hknown]
        exact hpending
      exact ⟨labels, moment, [], listener, rfl, hdispatched, hphase,
        echoes_afterDispatch hphase⟩

/-- In every interleaving every answer is for the frame that was sent: it is turned
away under its id, or its last dispatch is passed on.  Only what is no frame is
answered under the zero id. -/
theorem answer_echoes (crypto : Crypto) (labels : List Label) (id : ℕ)
    (longPoll : Bool) (input : Bytes) (response : Response)
    (hanswered : (run (step crypto) App.start labels).tasks id =
      some ⟨longPoll, input, .answered response⟩) :
    (∃ frame, TransportFrame.decode input = .ok frame ∧
      (TurnedAway longPoll frame response ∨ Passed crypto labels id frame response)) ∨
      (∀ frame, TransportFrame.decode input ≠ .ok frame) ∧
        response = errorResponse .badRequest (FixedBytes.fill 16 0) .malformed :=
  faithful_run crypto labels id _ hanswered

/-- The device asks for its challenge and is answered. -/
theorem challenge_answer_echoes :
    (∃ frame, TransportFrame.decode
        (sessionPacket .authChallenge (List.replicate 16 3)).input = .ok frame ∧
      (TurnedAway false frame ⟨.ok, cborResponse
          (⟨1, .authChallenge, FixedBytes.fill 16 9, 0,
            List.replicate 16 6 ++ List.replicate 32 0⟩ : TransportFrame)⟩ ∨
        Passed sessionCrypto LongPolls.quietPoll 1 frame ⟨.ok, cborResponse
          (⟨1, .authChallenge, FixedBytes.fill 16 9, 0,
            List.replicate 16 6 ++ List.replicate 32 0⟩ : TransportFrame)⟩)) ∨
      (∀ frame, TransportFrame.decode
        (sessionPacket .authChallenge (List.replicate 16 3)).input ≠ .ok frame) ∧
        (⟨.ok, cborResponse
          (⟨1, .authChallenge, FixedBytes.fill 16 9, 0,
            List.replicate 16 6 ++ List.replicate 32 0⟩ : TransportFrame)⟩ : Response) =
          errorResponse .badRequest (FixedBytes.fill 16 0) .malformed :=
  answer_echoes sessionCrypto LongPolls.quietPoll 1 false
    (sessionPacket .authChallenge (List.replicate 16 3)).input _ (by decide +kernel)

/-! ## Metrics -/

def responseOf : Option Task → Option Response
  | some ⟨_, _, .answered response⟩ => some response
  | _ => none

/-- The task a label is for. -/
def target : Label → Option ℕ
  | .arrive id _ _ => some id
  | .count id _ => some id
  | .listen id _ => some id
  | .dispatch id _ => some id
  | .wake id _ => some id
  | .connection id _ _ => some id
  | _ => none

/-- The request that a label brings to the handler. -/
def arrivalOf (app : App) : Label → Option ℕ
  | .arrive id _ input =>
      if (app.tasks id).isNone && App.withinLimit input then some id else none
  | _ => none

/-- The answer that a label brings. -/
def answerOf (crypto : Crypto) (app : App) (label : Label) : Option (ℕ × Response) :=
  (target label).bind fun id =>
    if (responseOf (app.tasks id)).isSome then none
    else (responseOf ((step crypto app label).tasks id)).map fun response =>
      (id, response)

/-- The answer is an error. -/
def isError (answer : ℕ × Response) : Bool := answer.2.status ≠ .ok

section Metrics

variable {crypto : Crypto} {app : App} {label : Label} {id : ℕ}

theorem responseOf_onListener (task : Task) (change : Listener → Listener) :
    responseOf (some { task with phase := task.phase.onListener change }) =
      responseOf (some task) := by
  obtain ⟨longPoll, input, phase⟩ := task
  cases phase <;> rfl

/-- A task is answered by a label for it, and then it stays answered. -/
theorem responseOf_moves {task task' : Option Task}
    (hmoves : Moves crypto app id label task task') :
    responseOf task' = responseOf task ∨
      target label = some id ∧ responseOf task = none := by
  cases hmoves with
  | hears =>
      left
      cases task with
      | none => rfl
      | some known => exact responseOf_onListener known _
  | stays => exact .inl rfl
  | dispatched hpending =>
      right
      rename_i known frame listener moment
      obtain ⟨longPoll, input, phase⟩ := known
      cases phase <;> cases hpending <;> exact ⟨rfl, rfl⟩
  | reconnected => exact .inl (responseOf_onListener _ _)
  | _ => exact .inr ⟨rfl, rfl⟩

theorem answerOf_eq_some {response : Response} :
    answerOf crypto app label = some (id, response) ↔
      target label = some id ∧ responseOf (app.tasks id) = none ∧
        responseOf ((step crypto app label).tasks id) = some response := by
  unfold answerOf
  rw [Option.bind_eq_some_iff]
  constructor
  · rintro ⟨other, htarget, hanswer⟩
    split at hanswer
    · cases hanswer
    case isFalse hopen =>
      obtain ⟨found, hfound, hpair⟩ := Option.map_eq_some_iff.mp hanswer
      cases hpair
      exact ⟨htarget, by simpa using hopen, hfound⟩
  · rintro ⟨htarget, hopen, hresponse⟩
    refine ⟨id, htarget, ?_⟩
    rw [hopen, hresponse]
    rfl

/-- A task is answered now if it was before or if the label answers it. -/
theorem responseOf_step {response : Response} :
    responseOf ((step crypto app label).tasks id) = some response ↔
      responseOf (app.tasks id) = some response ∨
        answerOf crypto app label = some (id, response) := by
  have hmoves : Moves crypto app id label (app.tasks id)
      ((step crypto app label).tasks id) := step_moves label
  rw [answerOf_eq_some]
  rcases responseOf_moves hmoves with hsame | ⟨htarget, hopen⟩
  · rw [hsame]
    constructor
    · exact .inl
    · rintro (hanswered | ⟨-, -, hanswered⟩) <;> exact hanswered
  · simp [htarget, hopen]

theorem answerOf_of_open (htarget : target label = some id)
    (hopen : responseOf (app.tasks id) = none) :
    answerOf crypto app label =
      (responseOf ((step crypto app label).tasks id)).map fun response =>
        (id, response) := by
  simp [answerOf, htarget, hopen]

theorem answerOf_of_same (hsame : (step crypto app label).tasks = app.tasks) :
    answerOf crypto app label = none := by
  rw [Option.eq_none_iff_forall_ne_some]
  rintro ⟨id, response⟩ hanswer
  obtain ⟨-, hopen, hanswered⟩ := answerOf_eq_some.mp hanswer
  rw [hsame, hopen] at hanswered
  cases hanswered

/-- What a label adds to the second metric. -/
def refusals (answer : Option (ℕ × Response)) : UInt64 :=
  if answer.any isError then 1 else 0

theorem errors_arrive (target : ℕ) (longPoll : Bool) (input : Bytes) :
    (step crypto app (.arrive target longPoll input)).errors = app.errors +
      refusals (answerOf crypto app (.arrive target longPoll input)) := by
  cases htask : app.tasks target with
  | some task =>
      have hsame : step crypto app (.arrive target longPoll input) = app := by
        simp only [step, App.arrive, htask]
      rw [answerOf_of_same (by rw [hsame]), hsame]
      simp [refusals]
  | none =>
      rw [answerOf_of_open rfl (by rw [htask]; rfl)]
      simp only [step, App.arrive, htask]
      cases App.withinLimit input with
      | false => simp [refusals, responseOf, htask]
      | true =>
          cases TransportFrame.decode input with
          | ok frame => simp [refusals, responseOf, App.setTask]
          | error failure =>
              simp [refusals, responseOf, App.setTask, App.countError, isError,
                errorResponse]

theorem errors_count (target : ℕ) (now : RateLimits.Timestamp) :
    (step crypto app (.count target now)).errors = app.errors +
      refusals (answerOf crypto app (.count target now)) := by
  by_cases hdecoded : ∃ longPoll input frame,
      app.tasks target = some ⟨longPoll, input, .decoded frame⟩
  · obtain ⟨longPoll, input, frame, htask⟩ := hdecoded
    rw [answerOf_of_open rfl (by rw [htask]; rfl)]
    simp only [step, App.count, htask]
    rcases RateLimits.checkRateLimit now (App.rateScope frame.clientMessageId) 120 60
      app.counters with ⟨failure | done, counters⟩
    · simp [refusals, responseOf, App.setTask, App.countError, isError, errorResponse]
    · cases longPoll with
      | false => simp [refusals, responseOf, App.setTask]
      | true =>
          by_cases hkind : frame.kind = .syncRequest
          · simp [refusals, responseOf, App.setTask, hkind]
          · simp [refusals, responseOf, App.setTask, App.countError, isError,
              errorResponse, hkind]
  · have hsame : step crypto app (.count target now) = app := by
      simp only [step, App.count]
      split
      case h_1 longPoll input frame htask =>
        exact absurd ⟨longPoll, input, frame, htask⟩ hdecoded
      case h_2 => rfl
    rw [answerOf_of_same (by rw [hsame]), hsame]
    simp [refusals]

theorem isError_failure (id : ℕ) (clientMessageId : Id16) (failure : ApiError) :
    isError (id, failureResponse clientMessageId failure) = true :=
  decide_eq_true (status_mapError failure)

theorem errors_dispatch (target : ℕ) (moment : Moment) :
    (step crypto app (.dispatch target moment)).errors = app.errors +
      refusals (answerOf crypto app (.dispatch target moment)) := by
  cases hdispatched : app.dispatched target with
  | none =>
      have hsame : step crypto app (.dispatch target moment) = app :=
        dispatchTask_of_idle moment hdispatched
      rw [answerOf_of_same (by rw [hsame]), hsame]
      simp [refusals]
  | some pending =>
      obtain ⟨frame, listener⟩ := pending
      obtain ⟨task, htask, hpending⟩ := Option.bind_eq_some_iff.mp hdispatched
      have hopen : responseOf (app.tasks target) = none := by
        rw [htask]
        obtain ⟨longPoll, input, phase⟩ := task
        cases phase <;> cases hpending <;> rfl
      rw [answerOf_of_open rfl hopen]
      simp only [step]
      rw [dispatchTask_of_pending moment htask hpending, setTask_same]
      cases (dispatch crypto moment frame app.db).1 with
      | error failure =>
          simp [refusals, Phase.afterDispatch, responseOf, App.setTask, App.announce,
            App.countError, Except.isOk, Except.toBool, isError_failure]
      | ok response =>
          have hnone : ((responseOf (some { task with
              phase := .afterDispatch frame listener (.ok response) })).map
                fun response => (target, response)).any isError = false := by
            simp only [Phase.afterDispatch]
            cases listener with
            | none => rfl
            | some subscribed =>
                dsimp only
                split <;> rfl
          simp only [refusals, hnone]
          simp [App.setTask, App.announce, Except.isOk, Except.toBool]

/-- A label that answers nothing and counts no error. -/
theorem errors_of_silent (herrors : (step crypto app label).errors = app.errors)
    (hsilent : ∀ id, responseOf ((step crypto app label).tasks id) ≠ none →
      responseOf (app.tasks id) ≠ none) :
    (step crypto app label).errors = app.errors +
      refusals (answerOf crypto app label) := by
  have hnone : answerOf crypto app label = none := by
    rw [Option.eq_none_iff_forall_ne_some]
    rintro ⟨id, response⟩ hanswer
    obtain ⟨-, hopen, hanswered⟩ := answerOf_eq_some.mp hanswer
    exact hsilent id (by rw [hanswered]; exact Option.some_ne_none response) hopen
  rw [hnone, herrors]
  simp [refusals]

/-- Subscribing, waking up and losing the connection answer nothing. -/
theorem responseOf_silent {task task' : Option Task}
    (hmoves : Moves crypto app id label task task')
    (hsilent : (∃ target granted, label = .listen target granted) ∨
      (∃ target timeout, label = .wake target timeout) ∨
      ∃ target connected kept, label = .connection target connected kept)
    (hanswered : responseOf task' ≠ none) : responseOf task ≠ none := by
  cases hmoves with
  | hears =>
      cases task with
      | none => exact hanswered
      | some known =>
          have hsame := responseOf_onListener known (Listener.hear (news crypto app label))
          exact fun hopen => hanswered (hsame.trans hopen)
  | stays => exact hanswered
  | reconnected =>
      rw [responseOf_onListener] at hanswered
      exact hanswered
  | listens => exact absurd rfl hanswered
  | woken => exact absurd rfl hanswered
  | _ =>
      obtain ⟨_, _, hlabel⟩ | ⟨_, _, hlabel⟩ | ⟨_, _, _, hlabel⟩ := hsilent <;> cases hlabel

/-- The second metric counts the answers that are errors. -/
theorem errors_step (label : Label) :
    (step crypto app label).errors = app.errors +
      refusals (answerOf crypto app label) := by
  cases label with
  | arrive target longPoll input => exact errors_arrive target longPoll input
  | count target now => exact errors_count target now
  | dispatch target moment => exact errors_dispatch target moment
  | listen target granted =>
      apply errors_of_silent
      · simp only [step, App.listen]
        split <;> rfl
      · exact fun id => responseOf_silent (step_moves _) (.inl ⟨target, granted, rfl⟩)
  | wake target timeout =>
      apply errors_of_silent
      · simp only [step, App.wake]
        split
        · split <;> rfl
        · rfl
      · exact fun id =>
          responseOf_silent (step_moves _) (.inr (.inl ⟨target, timeout, rfl⟩))
  | connection target connected kept =>
      apply errors_of_silent
      · simp only [step, App.connection]
        split <;> rfl
      · exact fun id =>
          responseOf_silent (step_moves _) (.inr (.inr ⟨target, connected, kept, rfl⟩))
  | cleanup now batch scan => exact errors_of_silent rfl fun id hanswered => hanswered
  | revoke now deviceId => exact errors_of_silent rfl fun id hanswered => hanswered

/-- The first metric counts the requests. -/
theorem requests_step (label : Label) :
    (step crypto app label).requests = app.requests +
      if (arrivalOf app label).isSome then 1 else 0 := by
  cases label with
  | arrive target longPoll input =>
      simp only [step, App.arrive, arrivalOf]
      split
      case h_1 task htask => simp [htask]
      case h_2 htask =>
        simp only [htask]
        cases App.withinLimit input with
        | false => simp
        | true =>
            simp only [Option.isNone_none, Bool.and_self, if_true, Option.isSome_some,
              Bool.not_true, Bool.false_eq_true, if_false]
            split <;> rfl
  | count target now =>
      simp only [step, App.count, arrivalOf]
      split
      · split
        · simp [App.countError, App.setTask]
        · split
          · split <;> simp [App.countError, App.setTask]
          · simp [App.setTask]
      · simp
  | dispatch target moment =>
      simp only [step, arrivalOf]
      cases hdispatched : app.dispatched target with
      | none =>
          rw [dispatchTask_of_idle moment hdispatched]
          simp
      | some pending =>
          obtain ⟨frame, listener⟩ := pending
          obtain ⟨task, htask, hpending⟩ := Option.bind_eq_some_iff.mp hdispatched
          rw [dispatchTask_of_pending moment htask hpending]
          split <;> simp [App.setTask, App.announce, App.countError]
  | listen target granted =>
      simp only [step, App.listen, arrivalOf]
      split <;> simp [App.setTask]
  | wake target timeout =>
      simp only [step, App.wake, arrivalOf]
      split
      · split <;> simp [App.setTask]
      · simp
  | connection target connected kept =>
      simp only [step, App.connection, arrivalOf]
      split <;> simp [App.setTask]
  | cleanup now batch scan => simp [step, arrivalOf]
  | revoke now deviceId => simp [step, arrivalOf]

theorem isSome_arrive (target : ℕ) (longPoll : Bool) (input : Bytes) :
    ((app.arrive target longPoll input).tasks id).isSome = true ↔
      (app.tasks id).isSome = true ∨
        arrivalOf app (.arrive target longPoll input) = some id := by
  simp only [App.arrive, arrivalOf]
  cases htask : app.tasks target with
  | some task => simp
  | none =>
      cases App.withinLimit input with
      | false => simp
      | true =>
          simp only [Option.isNone_none, Bool.and_self, if_true, Option.some.injEq,
            Bool.not_true, Bool.false_eq_true, if_false]
          by_cases hid : id = target
          · subst hid
            cases TransportFrame.decode input with
            | ok frame => simp
            | error failure => simp
          · cases TransportFrame.decode input with
            | ok frame => simp [setTask_other, hid, Ne.symm hid]
            | error failure => simp [setTask_other, hid, Ne.symm hid, App.countError]

/-- A task exists now if it did before or if the label brings it. -/
theorem isSome_step :
    ((step crypto app label).tasks id).isSome = true ↔
      (app.tasks id).isSome = true ∨ arrivalOf app label = some id := by
  have hmoves : Moves crypto app id label (app.tasks id)
      ((step crypto app label).tasks id) := step_moves label
  cases label with
  | arrive target longPoll input => exact isSome_arrive target longPoll input
  | _ =>
      simp only [arrivalOf, reduceCtorEq, or_false]
      generalize app.tasks id = task at hmoves ⊢
      generalize (step crypto app _).tasks id = task' at hmoves ⊢
      cases hmoves <;> simp

end Metrics

/-- Everything the metrics are computed from. -/
structure Metered (answers : List (ℕ × Response)) (arrivals : List ℕ) (app : App) :
    Prop where
  arrived : ∀ id, id ∈ arrivals ↔ (app.tasks id).isSome = true
  answered : ∀ id response, (id, response) ∈ answers ↔
    responseOf (app.tasks id) = some response
  arrivedOnce : arrivals.Nodup
  answeredOnce : (answers.map Prod.fst).Nodup
  requests : app.requests = UInt64.ofNat arrivals.length
  errors : app.errors = UInt64.ofNat (answers.countP isError)

section Runs

variable {crypto : Crypto} {app : App} {label : Label}
variable {answers : List (ℕ × Response)} {arrivals : List ℕ}

theorem metered_step (hmetered : Metered answers arrivals app) :
    Metered (answers ++ (answerOf crypto app label).toList)
      (arrivals ++ (arrivalOf app label).toList) (step crypto app label) where
  arrived := by
    intro id
    rw [isSome_step, List.mem_append, hmetered.arrived, Option.mem_toList]
  answered := by
    intro id response
    rw [responseOf_step, List.mem_append, hmetered.answered, Option.mem_toList]
  arrivedOnce := by
    cases harrival : arrivalOf app label with
    | none => simpa using hmetered.arrivedOnce
    | some id =>
        have hfresh : id ∉ arrivals := by
          rw [hmetered.arrived]
          cases label with
          | arrive target longPoll input =>
              simp only [arrivalOf] at harrival
              split at harrival
              case isTrue hcalled =>
                cases harrival
                have hnone := (Bool.and_eq_true_iff.mp hcalled).1
                rw [Option.isNone_iff_eq_none] at hnone
                rw [hnone]
                exact Bool.false_ne_true
              case isFalse => cases harrival
          | _ => cases harrival
        rw [Option.toList_some, List.nodup_append]
        refine ⟨hmetered.arrivedOnce, List.nodup_singleton id, ?_⟩
        intro other hother same hsame
        rw [List.mem_singleton] at hsame
        subst hsame
        rintro rfl
        exact hfresh hother
  answeredOnce := by
    cases hanswer : answerOf crypto app label with
    | none => simpa using hmetered.answeredOnce
    | some answer =>
        obtain ⟨id, response⟩ := answer
        obtain ⟨-, hopen, -⟩ := answerOf_eq_some.mp hanswer
        have hfresh : id ∉ answers.map Prod.fst := by
          intro hid
          obtain ⟨⟨other, earlier⟩, hearlier, rfl⟩ := List.mem_map.mp hid
          rw [hmetered.answered, hopen] at hearlier
          cases hearlier
        rw [Option.toList_some, List.map_append, List.nodup_append]
        refine ⟨hmetered.answeredOnce, List.nodup_singleton id, ?_⟩
        intro other hother same hsame
        rw [List.map_singleton, List.mem_singleton] at hsame
        subst hsame
        rintro rfl
        exact hfresh hother
  requests := by
    rw [requests_step, hmetered.requests, List.length_append]
    cases arrivalOf app label with
    | none => simp
    | some id => simp [UInt64.ofNat_add]
  errors := by
    rw [errors_step, hmetered.errors, List.countP_append]
    cases answerOf crypto app label with
    | none => simp [refusals]
    | some answer =>
        simp only [refusals, Option.any_some, Option.toList_some, List.countP_singleton]
        split <;> simp [UInt64.ofNat_add]

end Runs

/-- In every interleaving the metrics are exact, modulo the width of a counter:
the first one is the number of requests that reach the handler, the second one the
number of those that were answered with an error, and none is answered twice. -/
theorem metrics_exact (crypto : Crypto) (labels : List Label) :
    Metered (picked (step crypto) (answerOf crypto) App.start labels)
      (picked (step crypto) arrivalOf App.start labels)
      (run (step crypto) App.start labels) := by
  apply run_history (P := fun (labels : List Label) (app : App) =>
    Metered (picked (step crypto) (answerOf crypto) App.start labels)
      (picked (step crypto) arrivalOf App.start labels) app)
  · exact ⟨by simp [picked, App.start], by simp [picked, App.start, responseOf],
      List.nodup_nil, List.nodup_nil, rfl, rfl⟩
  · intro labels label hmetered
    rw [picked_concat, picked_concat]
    exact metered_step hmetered

end ResilientMessenger.Answers
