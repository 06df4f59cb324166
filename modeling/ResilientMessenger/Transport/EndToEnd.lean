import ResilientMessenger.Server.Answers
import ResilientMessenger.Transport.Relay
import ResilientMessenger.Transport.SenderRules

/-!
# From the client's queue to the server and back

The client's manager, its network sender, a relay and the HTTP handler of the
core, put together.  Every exchange takes its own course: whether the link works,
and everything else that happens at the core until the answer is written.
`responses_belong` says that a response the client is handed belongs to the frame
it was queued for.  `dead_token_stalls` says what becomes of a queue whose head
carries a token that is no longer good: it never gets past it.
-/

namespace ResilientMessenger.EndToEnd

open ResilientMessenger.ByteCodec
open ResilientMessenger.Frames
open ResilientMessenger.Identity
open ResilientMessenger.Schema
open ResilientMessenger.Backend
open ResilientMessenger.Dispatch
open ResilientMessenger.Directory
open ResilientMessenger.Manager
open ResilientMessenger.Outbox (Operation)
open ResilientMessenger.Endpoint
open ResilientMessenger.Relay (Core Link Reply accepted isSuccess)
open ResilientMessenger.SenderRules
open ResilientMessenger.Runs

/-! ## The parts put together -/

def asU16 : StatusCode → ℕ
  | .ok => 200
  | .badRequest => 400
  | .unauthorized => 401
  | .conflict => 409
  | .tooManyRequests => 429
  | .internalServerError => 500

/-- One request to the core: its task and all that happens until the relay has the
answer or gives up waiting. -/
structure Visit where
  id : ℕ
  labels : List Endpoint.Label

structure Upstream where
  app : App
  visits : List Visit

def reply : Option Task → Reply
  | some ⟨_, _, .answered response⟩ => .response (asU16 response.status) response.body
  | _ => .failed

/-- The core as a relay sees it, with the layer in front of its handler. -/
def coreApi (crypto : Crypto) : Core Upstream where
  post upstream longPoll bytes :=
    match upstream.visits with
    | [] => (.failed, upstream)
    | visit :: visits =>
        if !App.withinLimit bytes then (.response 413 none, { upstream with visits })
        else if (upstream.app.tasks visit.id).isSome then (.failed, { upstream with visits })
        else
          let app := run (step crypto) upstream.app
            (.arrive visit.id longPoll bytes :: visit.labels)
          (reply (app.tasks visit.id), ⟨app, visits⟩)

/-- The core and the links that the next exchanges will have. -/
structure Network where
  upstream : Upstream
  links : List Link

def overLink (send : Link → Bytes → Upstream → Except TransportError Bytes × Upstream)
    (network : Network) (bytes : Bytes) : Except TransportError Bytes × Network :=
  match network.links with
  | [] => (.error .unavailable, network)
  | link :: links =>
      let (answer, upstream) := send link bytes network.upstream
      (answer, ⟨upstream, links⟩)

def networkSender (crypto : Crypto) : EndpointSender Network where
  sendWebsocket network _ bytes :=
    overLink (Relay.sendWebsocket (coreApi crypto)) network bytes
  sendHttps network _ bytes := overLink (Relay.sendHttps (coreApi crypto)) network bytes

/-! ## From the core to the sender -/

/-- A core that keeps `P` and whose answers are what `Q` allows. -/
def CoreObeys {σ : Type} (P : σ → Prop) (Q : Bytes → Bytes → Prop) (core : Core σ) : Prop :=
  ∀ state longPoll bytes, P state → P (core.post state longPoll bytes).2 ∧
    ∀ value, accepted (core.post state longPoll bytes).1 = some value → Q bytes value

section Forwarding

variable {σ : Type} {P : σ → Prop} {Q : Bytes → Bytes → Prop} {core : Core σ}

theorem forward_obeys (hcore : CoreObeys P Q core) {state : σ} (hstate : P state)
    (bytes : Bytes) (longPoll : Bool) :
    P (Relay.forward core bytes longPoll state).2 ∧
      ∀ value, (Relay.forward core bytes longPoll state).1.toOption = some value →
        Q bytes value := by
  cases hdecode : TransportFrame.decode bytes with
  | error failure =>
      rw [Relay.forward_of_malformed hdecode]
      exact ⟨hstate, by simp [Except.toOption]⟩
  | ok frame =>
      obtain ⟨hkept, hallowed⟩ := hcore state longPoll bytes hstate
      rw [Relay.forward_of_frame hdecode]
      refine ⟨hkept, ?_⟩
      cases haccepted : accepted (core.post state longPoll bytes).1 with
      | none => simp [Except.toOption]
      | some value =>
          rintro _ ⟨⟩
          exact hallowed value haccepted

/-- What both ways of sending have in common. -/
theorem link_obeys (hcore : CoreObeys P Q core) {state after : σ} (hstate : P state)
    {bytes : Bytes} {longPoll : Bool} {link : Link} {answer : Except TransportError Bytes}
    (hanswer : answer.toOption = if link.works then
      (Relay.forward core bytes longPoll state).1.toOption else none)
    (hafter : after = if link.reaches then
      (Relay.forward core bytes longPoll state).2 else state) :
    P after ∧ ∀ value, answer = .ok value → Q bytes value := by
  obtain ⟨hkept, hallowed⟩ := forward_obeys hcore hstate bytes longPoll
  constructor
  · rw [hafter]
    split
    · exact hkept
    · exact hstate
  · rintro value rfl
    split at hanswer
    · exact hallowed value hanswer.symm
    · cases hanswer

end Forwarding

section Sender

variable {crypto : Crypto} {P : Upstream → Prop} {Q : Bytes → Bytes → Prop}

theorem overLink_obeys
    {send : Link → Bytes → Upstream → Except TransportError Bytes × Upstream}
    (hsend : ∀ link bytes upstream, P upstream → P (send link bytes upstream).2 ∧
      ∀ value, (send link bytes upstream).1 = .ok value → Q bytes value)
    (network : Network) (bytes : Bytes) (hstate : P network.upstream) :
    P (overLink send network bytes).2.upstream ∧
      ∀ value, (overLink send network bytes).1 = .ok value → Q bytes value := by
  unfold overLink
  split
  · exact ⟨hstate, by simp⟩
  case h_2 link links hlinks => exact hsend link bytes network.upstream hstate

theorem networkSender_obeys (hcore : CoreObeys P Q (coreApi crypto)) :
    SenderObeys (fun network : Network => P network.upstream) Q (networkSender crypto) where
  websocket := by
    intro network _ bytes hstate
    apply overLink_obeys (fun link bytes upstream hstate => ?_) network bytes hstate
    obtain ⟨hanswer, hafter⟩ := Relay.sendWebsocket_spec link bytes upstream
    exact link_obeys hcore hstate hanswer hafter
  https := by
    intro network _ bytes hstate
    apply overLink_obeys (fun link bytes upstream hstate => ?_) network bytes hstate
    obtain ⟨hanswer, hafter⟩ := Relay.sendHttps_spec link bytes upstream
    exact link_obeys hcore hstate hanswer hafter

end Sender

/-! ## The task of a visit -/

section Visits

variable {crypto : Crypto} {app : App} {id : ℕ} {bytes : Bytes}

/-- The task is there and was made for these bytes. -/
def Works (id : ℕ) (bytes : Bytes) (app : App) : Prop :=
  ∃ task, app.tasks id = some task ∧ task.input = bytes

theorem works_moves {label : Endpoint.Label} {task : Task} {task' : Option Task}
    (hmoves : Moves crypto app id label (some task) task') :
    ∃ later, task' = some later ∧ later.input = task.input := by
  cases hmoves <;> exact ⟨_, rfl, rfl⟩

theorem works_step (label : Endpoint.Label) (hworks : Works id bytes app) :
    Works id bytes (step crypto app label) := by
  obtain ⟨task, htask, rfl⟩ := hworks
  have hmoves : Moves crypto app id label (app.tasks id) _ := step_moves label
  rw [htask] at hmoves
  exact works_moves hmoves

theorem works_arrive (longPoll : Bool) (hfree : app.tasks id = none)
    (hlimit : App.withinLimit bytes = true) :
    Works id bytes (step crypto app (.arrive id longPoll bytes)) := by
  simp only [step, App.arrive, hfree, hlimit, Bool.not_true, Bool.false_eq_true, if_false]
  split
  · exact ⟨_, setTask_same _ _ _, rfl⟩
  · exact ⟨_, setTask_same _ _ _, rfl⟩

/-- A request to the core fails, or it runs a task of its own. -/
theorem post_cases (crypto : Crypto) (upstream : Upstream) (longPoll : Bool)
    (bytes : Bytes) :
    accepted ((coreApi crypto).post upstream longPoll bytes).1 = none ∧
        ((coreApi crypto).post upstream longPoll bytes).2.app = upstream.app ∧
        ((coreApi crypto).post upstream longPoll bytes).2.visits <:+ upstream.visits ∨
      ∃ visit visits, upstream.visits = visit :: visits ∧
        App.withinLimit bytes = true ∧ upstream.app.tasks visit.id = none ∧
        (coreApi crypto).post upstream longPoll bytes =
          (reply ((run (step crypto) upstream.app
              (.arrive visit.id longPoll bytes :: visit.labels)).tasks visit.id),
            ⟨run (step crypto) upstream.app
              (.arrive visit.id longPoll bytes :: visit.labels), visits⟩) := by
  obtain ⟨app, visits⟩ := upstream
  cases visits with
  | nil => exact .inl ⟨rfl, rfl, List.suffix_rfl⟩
  | cons visit visits =>
      simp only [coreApi]
      cases hlimit : App.withinLimit bytes with
      | false => exact .inl ⟨rfl, rfl, List.suffix_cons visit visits⟩
      | true =>
          cases hfree : app.tasks visit.id with
          | some task => exact .inl ⟨rfl, rfl, List.suffix_cons visit visits⟩
          | none => exact .inr ⟨visit, visits, rfl, rfl, hfree, rfl⟩

/-- An answer that is handed on is one of the core's with status 200. -/
theorem accepted_reply {task : Option Task} {value : Bytes}
    (haccepted : accepted (reply task) = some value) :
    ∃ longPoll input frame, task = some ⟨longPoll, input, .answered ⟨.ok, value⟩⟩ ∧
      TransportFrame.decode value = .ok frame := by
  unfold reply at haccepted
  split at haccepted
  case h_2 => cases haccepted
  case h_1 longPoll input response =>
    obtain ⟨status, body⟩ := response
    simp only [accepted] at haccepted
    split at haccepted
    case isFalse => cases haccepted
    case isTrue hstatus =>
      have hok : status = .ok := by
        cases status with
        | ok => rfl
        | _ => cases hstatus
      subst hok
      obtain ⟨hbody, hdecode⟩ := Option.filter_eq_some_iff.mp haccepted
      cases hbody
      cases hframe : TransportFrame.decode value with
      | error failure =>
          rw [hframe] at hdecode
          cases hdecode
      | ok frame => exact ⟨longPoll, input, frame, rfl, rfl⟩

theorem works_run {visit : Visit} {longPoll : Bool} (hfree : app.tasks visit.id = none)
    (hlimit : App.withinLimit bytes = true) :
    Works visit.id bytes
      (run (step crypto) app (.arrive visit.id longPoll bytes :: visit.labels)) := by
  rw [run_cons]
  exact run_invariant (fun app label hworks => works_step label hworks)
    (works_arrive longPoll hfree hlimit) visit.labels

end Visits

/-! ## Responses belong to their frames -/

/-- The response is an answer to the frame, under its id. -/
def Belongs (bytes value : Bytes) : Prop :=
  ∃ frame answer, TransportFrame.decode bytes = .ok frame ∧
    TransportFrame.decode value = .ok answer ∧
    answer.clientMessageId = frame.clientMessageId ∧
    Answers.answerKind frame.kind = some answer.kind

/-- The response passes on some dispatch of the frame. -/
def EchoesSome (frame : TransportFrame) (response : Response) : Prop :=
  ∃ result, Answers.Echoes frame result response

/-- Every task of the core works on the frame it was sent. -/
def AllFaithful (app : App) : Prop :=
  ∀ id, ∀ task ∈ app.tasks id,
    Answers.Faithful EchoesSome task.longPoll task.input task.phase

theorem allFaithful_step {crypto : Crypto} (app : App) (label : Endpoint.Label)
    (hfaithful : AllFaithful app) : AllFaithful (step crypto app label) := by
  intro id
  apply Answers.faithful_moves (step_moves label) _ _ (hfaithful id)
  · exact fun frame response hechoes => hechoes
  · exact fun known hknown frame listener moment response hlabel hpending hphase =>
      ⟨_, Answers.echoes_afterDispatch hphase⟩

theorem allFaithful_run {crypto : Crypto} {app : App} (hfaithful : AllFaithful app)
    (labels : List Endpoint.Label) : AllFaithful (run (step crypto) app labels) :=
  run_invariant allFaithful_step hfaithful labels

theorem allFaithful_start : AllFaithful App.start := by
  intro id task htask
  cases htask

/-- A response with status 200 that is a frame belongs to the frame it passes on. -/
theorem belongs_of_echoes {bytes value : Bytes} {frame answer : TransportFrame}
    {result : Except ApiError TransportFrame}
    (hdecode : TransportFrame.decode bytes = .ok frame)
    (hanswer : TransportFrame.decode value = .ok answer)
    (hechoes : Answers.Echoes frame result ⟨.ok, value⟩) : Belongs bytes value := by
  cases result with
  | error failure => exact absurd hechoes.1.symm (Answers.status_mapError failure)
  | ok passed =>
      obtain ⟨-, hid, hkind, hbody⟩ := hechoes
      split at hbody
      · rw [hanswer] at hbody
        cases hbody
        exact ⟨frame, answer, hdecode, hanswer, hid, hkind⟩
      · have hempty : value = [] := hbody
        rw [hempty] at hanswer
        cases hanswer

theorem belongs_of_faithful {longPoll : Bool} {bytes value : Bytes}
    {answer : TransportFrame} (hanswer : TransportFrame.decode value = .ok answer)
    (hfaithful : Answers.Faithful EchoesSome longPoll bytes (.answered ⟨.ok, value⟩)) :
    Belongs bytes value := by
  rcases hfaithful with ⟨frame, hdecode, (hrefused | ⟨-, -, hrefused⟩) | ⟨result, hechoes⟩⟩ |
    ⟨-, hmalformed⟩
  · cases hrefused.1
  · cases hrefused.1
  · exact belongs_of_echoes hdecode hanswer hechoes
  · cases hmalformed

theorem coreApi_belongs (crypto : Crypto) :
    CoreObeys (fun upstream => AllFaithful upstream.app) Belongs (coreApi crypto) := by
  intro upstream longPoll bytes hfaithful
  rcases post_cases crypto upstream longPoll bytes with ⟨hrefused, happ, -⟩ |
    ⟨visit, visits, -, hlimit, hfree, hpost⟩
  · rw [← happ] at hfaithful
    exact ⟨hfaithful, by rw [hrefused]; simp⟩
  rw [hpost]
  have hworks : Works visit.id bytes (run (step crypto) upstream.app
      (.arrive visit.id longPoll bytes :: visit.labels)) := works_run hfree hlimit
  have hlater : AllFaithful (run (step crypto) upstream.app
      (.arrive visit.id longPoll bytes :: visit.labels)) := allFaithful_run hfaithful _
  refine ⟨hlater, ?_⟩
  intro value haccepted
  obtain ⟨answeredPoll, input, answer, htask, hanswer⟩ := accepted_reply haccepted
  obtain ⟨task, hfound, rfl⟩ := hworks
  rw [hfound] at htask
  cases htask
  exact belongs_of_faithful hanswer (hlater visit.id _ hfound)

theorem forall₂_of_flushed {Q : Bytes → Bytes → Prop} {frames remaining : List QueuedFrame}
    {rounds : List Round} {responses : List Bytes}
    (hflushed : Outbox.Flushed frames rounds responses remaining)
    (hrounds : ∀ round ∈ rounds, ∀ value, round.delivered = some value →
      Q round.bytes value) (hdrained : remaining = []) :
    List.Forall₂ (fun frame value => Q frame.bytes value) frames responses := by
  induction hflushed with
  | drained => exact .nil
  | stuck frame frames contacts hsettles => cases hdrained
  | delivered frame contacts value hsettles hrest ih =>
      refine .cons (hrounds _ List.mem_cons_self value rfl) (ih ?_ hdrained)
      exact fun round hround => hrounds round (List.mem_cons_of_mem _ hround)

/-- The client's manager over a core that has been through any run. -/
def connected (crypto : Crypto) (manager : TransportManager Network)
    (labels : List Endpoint.Label) : TransportManager Network :=
  { manager with
    sender := { manager.sender with
      upstream := { manager.sender.upstream with
        app := run (step crypto) App.start labels } } }

/-- Whatever the client did before, and whatever links break and whoever else is
served meanwhile, the responses of a flush answer the queued frames one by one. -/
theorem responses_belong (crypto : Crypto) (scheme : SignatureScheme)
    (manager : TransportManager Network) (labels : List Endpoint.Label)
    (operations : List Operation) (now : UInt64) (session : Outbox.Session Network)
    (hsession : session = run (Outbox.Session.step scheme (networkSender crypto))
      (Outbox.Session.start (connected crypto manager labels)) operations)
    (responses : List Bytes)
    (hflush : (session.manager.flush (networkSender crypto) now).1 = .ok responses) :
    List.Forall₂ (fun frame value => Belongs frame.bytes value) session.manager.outbox
      responses := by
  have hobeys := networkSender_obeys (coreApi_belongs crypto)
  have hstart : AllFaithful (connected crypto manager labels).sender.upstream.app :=
    allFaithful_run allFaithful_start labels
  have hanswered : Answered (fun network : Network => AllFaithful network.upstream.app)
      Belongs session := by
    rw [hsession]
    exact run_answers hobeys scheme hstart operations
  obtain ⟨-, hrounds⟩ := flushLoop_obeys hobeys now session.manager.outbox []
    session.manager hanswered.1
  obtain ⟨found, remaining, hflushed, -, hresult⟩ :=
    Outbox.flush_spec (networkSender crypto) now session.manager
  rw [hflush] at hresult
  split at hresult
  case isTrue hdrained =>
    cases hresult
    exact forall₂_of_flushed hflushed hrounds hdrained
  case isFalse => cases hresult

/-- A manager with these frames queued, over links that all work. -/
def sampleManager (outbox : List QueuedFrame) (visits : List Visit) :
    TransportManager Network where
  sender := ⟨⟨App.start, visits⟩, List.replicate visits.length ⟨true, true, true⟩⟩
  directory := Outbox.sampleDirectory
  verificationKey := SignatureScheme.neutralKey
  outbox
  health := Table.empty
  counters := ⟨0, 0, 0, 0, 0, 0⟩
  preferredEndpoint := none

def sampleFrame (kind : FrameType) (body : Bytes) : QueuedFrame where
  clientMessageId := (Responses.sessionFrame kind body).clientMessageId
  bytes := (Responses.sessionPacket kind body).input

def sampleVisit (moment : Moment) : Visit where
  id := 9
  labels := [.count 9 LongPolls.zeroTime, .dispatch 9 moment]

def pong : TransportFrame := ⟨1, .pong, FixedBytes.fill 16 9, 0, [7]⟩

/-- A ping goes through relay and core and its pong comes back. -/
theorem pong_belongs :
    List.Forall₂ (fun frame value => Belongs frame.bytes value)
      [sampleFrame .ping [7]] [Responses.cborResponse pong] :=
  responses_belong Responses.sessionCrypto SignatureScheme.neutral
    (sampleManager [] [sampleVisit Responses.sessionMoment]) LongPolls.quietPoll
    [.enqueue (Responses.sessionFrame .ping [7])] 1000 _ rfl _ (by decide +kernel)

/-! ## Tokens that are no longer good -/

/-- The token was issued and has run out, or its device is revoked. -/
def Dead (crypto : Crypto) (token : Id32) (since : Time) (db : Database) : Prop :=
  ∃ row device, db.accessSessions.lookup (tokenHash crypto "access" token) = some row ∧
    db.devices.lookup row.deviceId = some device ∧
    (row.expiresAt ≤ since ∨ device.revokedAt.isSome = true)

/-- A frame that carries the token and is not served without it. -/
structure Carries (token : Id32) (frame : TransportFrame) : Prop where
  kind : frame.kind = .uploadEnvelope ∨ frame.kind = .syncRequest ∨
    frame.kind = .deliveryReceiptBatch ∨ frame.kind = .readReceiptBatch
  body : token.toList <+: frame.body

section Dead

variable {crypto : Crypto} {token : Id32} {since : Time} {db : Database}

theorem dead_refused (hdead : Dead crypto token since db) {now : Time}
    (hnow : since ≤ now) (deviceId : Id16) :
    authenticateAccess crypto now token db ≠ .ok deviceId := by
  obtain ⟨row, device, hrow, hdevice, hreason⟩ := hdead
  intro hok
  obtain ⟨found, hfound, rfl, hlive, hactive⟩ := Sessions.authenticateAccess_eq_ok.mp hok
  rw [hrow] at hfound
  cases hfound
  rcases hreason with hexpired | hrevoked
  · exact absurd (hexpired.trans hnow) (not_le.mpr hlive)
  · rw [activeDevice, hdevice] at hactive
    obtain ⟨active, hactive⟩ := Option.isSome_iff_exists.mp hactive
    obtain ⟨hsame, hunrevoked⟩ := Option.filter_eq_some_iff.mp hactive
    cases hsame
    have hnone : device.revokedAt = none := by simpa using hunrevoked
    rw [hnone] at hrevoked
    cases hrevoked

theorem dead_step (label : Sessions.Label) (hdead : Dead crypto token since db) :
    Dead crypto token since (Sessions.step crypto db label) := by
  obtain ⟨row, device, hrow, hdevice, hreason⟩ := hdead
  cases label with
  | request request =>
      refine ⟨row, device, ?_, Sessions.serve_devices request hdevice, hreason⟩
      rw [Sessions.step, RequestedCalls.serve_requested]
      cases RequestedCalls.requestedCall crypto request.moment.now request.frame db with
      | none => exact hrow
      | some call => exact LongPolls.sessions_perform call hrow
  | cleanup now batch scan => exact ⟨row, device, hrow, hdevice, hreason⟩
  | revoke now deviceId =>
      by_cases hsame : row.deviceId = deviceId
      · refine ⟨row, { device with revokedAt := some now }, hrow, ?_, .inr rfl⟩
        rw [Sessions.step, Revocation.revokeDevice, Table.lookup_modify, if_pos hsame,
          ← hsame, hdevice]
        rfl
      · refine ⟨row, device, hrow, ?_, hreason⟩
        rw [Sessions.step, Revocation.revokeDevice, Table.lookup_modify, if_neg hsame]
        exact hdevice

theorem authenticated_token {now : Time} {body answer : Bytes}
    {next : Id16 → Bytes → Handler} (hbody : token.toList <+: body)
    (hok : (authenticated crypto now body next db).1 = .ok answer) :
    ∃ deviceId, authenticateAccess crypto now token db = .ok deviceId := by
  simp only [authenticated, Responses.reading_fst_eq_ok, Prod.exists] at hok
  obtain ⟨read, unread, hread, deviceId, hdevice, -⟩ := hok
  obtain ⟨rest, rfl⟩ := hbody
  have hsplit := ByteReader.array_eq_ok.mp hread
  have hsame : token = read := by
    apply List.Vector.eq
    exact List.append_inj_left hsplit (by simp)
  exact ⟨deviceId, hsame ▸ hdevice⟩

/-- The core never answers a frame whose token is no longer good. -/
theorem dispatch_dead {frame : TransportFrame} (hcarries : Carries token frame)
    {moment : Moment} (hdead : Dead crypto token since db) (hnow : since ≤ moment.now)
    (answer : TransportFrame) : (dispatch crypto moment frame db).1 ≠ .ok answer := by
  intro hok
  obtain ⟨kind, handler, body, hroute, hhandler, -⟩ := Responses.dispatch_fst_eq_ok.mp hok
  have hhas : ∃ deviceId, authenticateAccess crypto moment.now token db = .ok deviceId := by
    rcases hcarries.kind with hkind | hkind | hkind | hkind <;>
      simp only [route, hkind, Option.some.injEq, Prod.mk.injEq] at hroute <;>
      obtain ⟨-, rfl⟩ := hroute <;>
      exact authenticated_token hcarries.body hhandler
  obtain ⟨deviceId, hdevice⟩ := hhas
  exact dead_refused hdead hnow deviceId hdevice

/-- A task that has an answer with status 200 had it before or has just been
dispatched. -/
theorem served_moves {app : App} {id : ℕ} {label : Endpoint.Label}
    {task task' : Option Task} {response : Response}
    (hmoves : Moves crypto app id label task task')
    (hresponse : Answers.responseOf task' = some response) (hok : response.status = .ok) :
    Answers.responseOf task = some response ∨
      ∃ known frame listener moment answer, task = some known ∧
        known.phase.pending = some (frame, listener) ∧ label = .dispatch id moment ∧
        (dispatch crypto moment frame app.db).1 = .ok answer := by
  cases hmoves with
  | hears =>
      left
      cases task with
      | none => cases hresponse
      | some known =>
          rw [← hresponse]
          exact (Answers.responseOf_onListener known _).symm
  | stays => exact .inl hresponse
  | dispatched hpending =>
      right
      rename_i known frame listener moment
      refine ⟨known, frame, listener, moment, ?_⟩
      cases hanswer : (dispatch crypto moment frame app.db).1 with
      | ok answer => exact ⟨answer, rfl, hpending, rfl, rfl⟩
      | error failure =>
          rw [hanswer] at hresponse
          cases hresponse
          exact absurd hok (Answers.status_mapError failure)
  | reconnected =>
      left
      rw [← hresponse]
      exact (Answers.responseOf_onListener _ _).symm
  | malformed =>
      cases hresponse
      cases hok
  | refused =>
      cases hresponse
      cases hok
  | unsuitable =>
      cases hresponse
      cases hok
  | _ => cases hresponse

/-- A label that is taken at `since` or later. -/
def Late (since : Time) (label : Endpoint.Label) : Prop :=
  ∀ id moment, label = .dispatch id moment → since ≤ moment.now

/-- The token is no longer good and the task for these bytes has not been served. -/
structure Unserved (crypto : Crypto) (token : Id32) (since : Time) (id : ℕ) (bytes : Bytes)
    (app : App) : Prop where
  works : Works id bytes app
  faithful : AllFaithful app
  dead : Dead crypto token since app.db
  refused : ∀ response, Answers.responseOf (app.tasks id) = some response →
    response.status ≠ .ok

theorem dead_app {app : App} (label : Endpoint.Label)
    (hdead : Dead crypto token since app.db) :
    Dead crypto token since (step crypto app label).db := by
  rw [step_db]
  cases onDatabase app label with
  | none => exact hdead
  | some change => exact dead_step change hdead

theorem unserved_step {app : App} {id : ℕ} {bytes : Bytes} {frame : TransportFrame}
    {label : Endpoint.Label} (hdecode : TransportFrame.decode bytes = .ok frame)
    (hcarries : Carries token frame) (hlate : Late since label)
    (hunserved : Unserved crypto token since id bytes app) :
    Unserved crypto token since id bytes (step crypto app label) := by
  refine ⟨works_step label hunserved.works, ?_, dead_app label hunserved.dead, ?_⟩
  · exact allFaithful_step app label hunserved.faithful
  · intro response hresponse hok
    rcases served_moves (step_moves label) hresponse hok with hearlier |
      ⟨known, sent, listener, moment, answer, hknown, hpending, rfl, hanswer⟩
    · exact hunserved.refused response hearlier hok
    · obtain ⟨task, htask, hinput⟩ := hunserved.works
      rw [htask] at hknown
      cases hknown
      have hfaithful := hunserved.faithful id known htask
      have hsent : TransportFrame.decode known.input = .ok sent :=
        Answers.decode_of_pending hfaithful hpending
      rw [hinput, hdecode] at hsent
      cases hsent
      exact dispatch_dead hcarries hunserved.dead (hlate id moment rfl) answer hanswer

theorem responseOf_arrive {app : App} {id : ℕ} {longPoll : Bool} {bytes : Bytes}
    {response : Response} (hfree : app.tasks id = none)
    (hresponse : Answers.responseOf ((step crypto app (.arrive id longPoll bytes)).tasks id) =
      some response) : response.status ≠ .ok := by
  intro hok
  rcases served_moves (step_moves (.arrive id longPoll bytes)) hresponse hok with hearlier |
    ⟨known, frame, listener, moment, answer, hknown, -⟩
  · rw [hfree] at hearlier
    cases hearlier
  · rw [hfree] at hknown
    cases hknown

/-- No visit to the core serves a frame whose token is no longer good. -/
theorem unserved_visit {app : App} {visit : Visit} {longPoll : Bool} {bytes : Bytes}
    {frame : TransportFrame} (hdecode : TransportFrame.decode bytes = .ok frame)
    (hcarries : Carries token frame) (hlimit : App.withinLimit bytes = true)
    (hfree : app.tasks visit.id = none) (hfaithful : AllFaithful app)
    (hdead : Dead crypto token since app.db)
    (hlate : ∀ label ∈ visit.labels, Late since label) :
    Unserved crypto token since visit.id bytes
      (run (step crypto) app (.arrive visit.id longPoll bytes :: visit.labels)) := by
  rw [run_cons]
  apply run_invariant_on
  · intro app label hlabel hunserved
    exact unserved_step hdecode hcarries (hlate label hlabel) hunserved
  · refine ⟨works_arrive longPoll hfree hlimit, ?_, dead_app _ hdead, ?_⟩
    · exact allFaithful_step app _ hfaithful
    · exact fun response hresponse => responseOf_arrive hfree hresponse

/-- The token is no longer good, and every visit to come is at `since` or later. -/
structure Doomed (crypto : Crypto) (token : Id32) (since : Time) (upstream : Upstream) :
    Prop where
  faithful : AllFaithful upstream.app
  dead : Dead crypto token since upstream.app.db
  late : ∀ visit ∈ upstream.visits, ∀ label ∈ visit.labels, Late since label

theorem dead_run {app : App} (labels : List Endpoint.Label)
    (hdead : Dead crypto token since app.db) :
    Dead crypto token since (run (step crypto) app labels).db :=
  run_invariant (P := fun app : App => Dead crypto token since app.db)
    (fun _ label hdead => dead_app label hdead) hdead labels

theorem coreApi_doomed {bytes : Bytes} {frame : TransportFrame}
    (hdecode : TransportFrame.decode bytes = .ok frame) (hcarries : Carries token frame) :
    CoreObeys (Doomed crypto token since) (fun sent _ => sent ≠ bytes) (coreApi crypto) := by
  intro upstream longPoll sent hdoomed
  rcases post_cases crypto upstream longPoll sent with ⟨hrefused, happ, hvisits⟩ |
    ⟨visit, visits, hvisits, hlimit, hfree, hpost⟩
  · refine ⟨⟨?_, ?_, ?_⟩, by rw [hrefused]; simp⟩
    · rw [happ]
      exact hdoomed.faithful
    · rw [happ]
      exact hdoomed.dead
    · exact fun visit hvisit => hdoomed.late visit (hvisits.subset hvisit)
  rw [hpost]
  have hlate := hdoomed.late
  rw [hvisits] at hlate
  refine ⟨⟨allFaithful_run hdoomed.faithful _, dead_run _ hdoomed.dead, ?_⟩, ?_⟩
  · exact fun later hlater => hlate later (List.mem_cons_of_mem _ hlater)
  · rintro value haccepted rfl
    have hunserved : Unserved crypto token since visit.id sent
        (run (step crypto) upstream.app
          (.arrive visit.id longPoll sent :: visit.labels)) :=
      unserved_visit hdecode hcarries hlimit hfree hdoomed.faithful hdoomed.dead
        (hlate visit List.mem_cons_self)
    obtain ⟨answeredPoll, input, answer, htask, -⟩ := accepted_reply haccepted
    apply hunserved.refused ⟨.ok, value⟩ _ rfl
    rw [htask]
    rfl

/-- A queue whose head carries a token that has run out, or whose device is revoked,
stays as it is: the head is sent again and again and is never answered, and what is
behind it is not sent at all. -/
theorem dead_token_stalls (crypto : Crypto) (scheme : SignatureScheme)
    (manager : TransportManager Network) (labels : List Endpoint.Label) (token : Id32)
    (since : Time) (head : QueuedFrame) (rest : List QueuedFrame)
    (frame : TransportFrame) (hqueue : manager.outbox = head :: rest)
    (hdecode : TransportFrame.decode head.bytes = .ok frame) (hcarries : Carries token frame)
    (hdead : Dead crypto token since (run (step crypto) App.start labels).db)
    (hlate : ∀ visit ∈ manager.sender.upstream.visits, ∀ label ∈ visit.labels,
      Late since label) (operations : List Operation) :
    Blocked head rest (run (Outbox.Session.step scheme (networkSender crypto))
      (Outbox.Session.start (connected crypto manager labels)) operations) := by
  have hcore : CoreObeys (Doomed crypto token since) (fun sent _ => sent ≠ head.bytes)
      (coreApi crypto) := coreApi_doomed hdecode hcarries
  have hstart : AllFaithful (run (step crypto) App.start labels) :=
    allFaithful_run allFaithful_start labels
  have hdoomed : Doomed crypto token since
      (connected crypto manager labels).sender.upstream := ⟨hstart, hdead, hlate⟩
  exact run_blocked (networkSender_obeys hcore) scheme hdoomed hqueue operations

end Dead

/-- The device has not refreshed its token for fifteen minutes and polls its group. -/
theorem expired_poll_stalls :
    Blocked (sampleFrame .syncRequest LongPolls.pollBody) [sampleFrame .ping [7]]
      (run (Outbox.Session.step SignatureScheme.neutral (networkSender Responses.sessionCrypto))
        (Outbox.Session.start (connected Responses.sessionCrypto
          (sampleManager [sampleFrame .syncRequest LongPolls.pollBody, sampleFrame .ping [7]]
            [sampleVisit { Responses.sessionMoment with now := 900000000 }])
          LongPolls.quietPoll))
        [.flush 1000, .enqueue (Responses.sessionFrame .ping [8]), .flush 2000]) := by
  apply dead_token_stalls Responses.sessionCrypto SignatureScheme.neutral _
    LongPolls.quietPoll (FixedBytes.fill 32 0) 900000000 _ _
    (Responses.sessionFrame .syncRequest LongPolls.pollBody)
  · rfl
  · decide +kernel
  · exact ⟨.inr (.inl rfl), ⟨_, rfl⟩⟩
  · refine ⟨⟨Redelivery.zeroTokenHash, FixedBytes.fill 16 3, 900000000⟩,
      ⟨FixedBytes.fill 16 3, Responses.neutralAccount, SignatureScheme.neutralKey, none⟩,
      ?_, ?_, .inl le_rfl⟩
    · decide +kernel
    · decide +kernel
  · intro visit hvisit label hlabel id moment hdispatch
    rw [List.mem_singleton.mp hvisit] at hlabel
    subst hdispatch
    simp only [sampleVisit, List.mem_cons, List.not_mem_nil, or_false] at hlabel
    rcases hlabel with hcount | hlabel
    · cases hcount
    · cases hlabel
      exact le_rfl

end ResilientMessenger.EndToEnd
