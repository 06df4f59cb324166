import ResilientMessenger.Core.Hex
import ResilientMessenger.Server.RateLimits
import ResilientMessenger.Server.Sessions

/-!
# The HTTP handler

`handle_binary` decodes the body, counts the frame, dispatches it and writes the
answer.  A long poll subscribes to the channel of new events before it
dispatches; if the page it asked for is empty it waits for a notification or for
the time to run out and dispatches once more.  Requests are handled
concurrently, so the handler is a step function over tasks, and a label says
which task moves.
-/

namespace ResilientMessenger.Endpoint

open ResilientMessenger.ByteCodec
open ResilientMessenger.Frames
open ResilientMessenger.Identity
open ResilientMessenger.Schema
open ResilientMessenger.Backend
open ResilientMessenger.Dispatch
open ResilientMessenger.EventProvenance (Scan cleanupExpiredEvents)
open ResilientMessenger.RateLimits (Counters Timestamp checkRateLimit)
open ResilientMessenger.RequestedCalls
open ResilientMessenger.Responses (cborResponse)
open ResilientMessenger.Runs

/-! ## Answers -/

/-- The status codes the handler writes. -/
inductive StatusCode where
  | ok
  | badRequest
  | unauthorized
  | conflict
  | tooManyRequests
  | internalServerError
  deriving DecidableEq

inductive ErrorCode where
  | malformed
  | replay
  | duplicate
  | rateLimited
  | cursorRegression
  deriving DecidableEq

/-- The octet of an error code. -/
def ErrorCode.octet : ErrorCode → UInt8
  | malformed => 1
  | replay => 4
  | duplicate => 5
  | rateLimited => 6
  | cursorRegression => 7

structure Response where
  status : StatusCode
  body : Bytes
  deriving DecidableEq

def mapError : ApiError → StatusCode × ErrorCode
  | .expired => (.unauthorized, .replay)
  | .replay => (.conflict, .replay)
  | .tokenReuse => (.conflict, .replay)
  | .conflict => (.conflict, .duplicate)
  | .unauthorized => (.unauthorized, .malformed)
  | .invalidCredentials => (.unauthorized, .malformed)
  | .cursorRegression => (.conflict, .cursorRegression)
  | .invalidInput => (.badRequest, .malformed)
  | .database => (.internalServerError, .malformed)

def errorFrame (clientMessageId : Id16) (code : ErrorCode) : TransportFrame where
  version := UInt16.ofNat protocolVersion
  kind := .error
  clientMessageId
  ttlSeconds := 0
  body := [code.octet]

def errorResponse (status : StatusCode) (clientMessageId : Id16) (code : ErrorCode) :
    Response :=
  ⟨status, cborResponse (errorFrame clientMessageId code)⟩

def failureResponse (clientMessageId : Id16) (failure : ApiError) : Response :=
  errorResponse (mapError failure).1 clientMessageId (mapError failure).2

/-! ## Notifications -/

/-- What `upload_event` sends to the channel when it commits a new event: the
group, in hexadecimal. -/
def uploadNotices (now : Time) (event : UploadedEvent) (db : Database) :
    List Bytes :=
  match (uploadEvent now event db).1 with
  | .ok accepted =>
      if accepted.duplicate then [] else [Hex.encode event.groupId.toList]
  | .error _ => []

/-- What a frame sends to the channel. -/
def notices (crypto : Crypto) (moment : Moment) (frame : TransportFrame)
    (db : Database) : List Bytes :=
  match requestedCall crypto moment.now frame db with
  | some (.uploadEvent event) => uploadNotices moment.now event db
  | _ => []

/-- A subscription.  While its connection is broken it hears nothing; `steady`
says that it never was. -/
structure Listener where
  connected : Bool
  steady : Bool
  inbox : List Bytes
  deriving DecidableEq

def Listener.subscribed : Listener := ⟨true, true, []⟩

def Listener.hear (news : List Bytes) (listener : Listener) : Listener :=
  if listener.connected then { listener with inbox := listener.inbox ++ news }
  else listener

/-! ## Tasks -/

/-- What has been done for a request. -/
inductive Phase where
  | decoded (frame : TransportFrame)
  | subscribing (frame : TransportFrame)
  | ready (frame : TransportFrame) (listener : Option Listener)
  | waiting (frame : TransportFrame) (listener : Listener)
  | woken (frame : TransportFrame)
  | answered (response : Response)
  deriving DecidableEq

namespace Phase

def onListener (change : Listener → Listener) : Phase → Phase
  | ready frame listener => ready frame (listener.map change)
  | waiting frame listener => waiting frame (change listener)
  | phase => phase

/-- The frame that is dispatched next, with the listener that may wait. -/
def pending : Phase → Option (TransportFrame × Option Listener)
  | ready frame listener => some (frame, listener)
  | woken frame => some (frame, none)
  | _ => none

/-- An answer for which it is worth waiting. -/
def emptyPage (response : TransportFrame) : Bool :=
  response.kind = .syncBatch &&
    (response.body.head? = some 0 || response.body.head? = some 1) &&
      response.body[1]? = some 0

/-- What follows a dispatch. -/
def afterDispatch (frame : TransportFrame) (listener : Option Listener) :
    Except ApiError TransportFrame → Phase
  | .error failure => answered (failureResponse frame.clientMessageId failure)
  | .ok response =>
      match listener with
      | none => answered ⟨.ok, cborResponse response⟩
      | some listener =>
          if emptyPage response then waiting frame listener
          else answered ⟨.ok, cborResponse response⟩

end Phase

/-- One request, to `/v1/sync` or to `/v1/long-poll`. -/
structure Task where
  longPoll : Bool
  input : Bytes
  phase : Phase
  deriving DecidableEq

/-- The process: its database with the abuse counters, its two metrics and the
requests it has been sent. -/
structure App where
  db : Database
  counters : Counters
  requests : UInt64
  errors : UInt64
  tasks : ℕ → Option Task

namespace App

def start : App where
  db := Database.migrated
  counters := Table.empty
  requests := 0
  errors := 0
  tasks := fun _ => none

def setTask (app : App) (id : ℕ) (task : Task) : App :=
  { app with tasks := Function.update app.tasks id (some task) }

def countError (app : App) : App := { app with errors := app.errors + 1 }

/-- Everybody who listens hears the news. -/
def announce (app : App) (news : List Bytes) : App :=
  { app with
    tasks := fun id => (app.tasks id).map fun task =>
      { task with phase := task.phase.onListener (Listener.hear news) } }

def defaultBodyLimit : ℕ := 64 * 1024

/-- The layer in front of the handler lets the body through.  To a larger one it
answers 413 itself, and the handler never sees it. -/
def withinLimit (input : Bytes) : Bool := input.length ≤ defaultBodyLimit

/-- A request comes in and its body is decoded. -/
def arrive (app : App) (id : ℕ) (longPoll : Bool) (input : Bytes) : App :=
  match app.tasks id with
  | some _ => app
  | none =>
      if !withinLimit input then app
      else
        let app := { app with requests := app.requests + 1 }
        match TransportFrame.decode input with
        | .ok frame => app.setTask id ⟨longPoll, input, .decoded frame⟩
        | .error _ =>
            app.countError.setTask id ⟨longPoll, input,
              .answered (errorResponse .badRequest (FixedBytes.fill 16 0) .malformed)⟩

def rateScope (clientMessageId : Id16) : Bytes :=
  ascii "frame/v1/" ++ clientMessageId.toList

/-- The frame is counted; whatever goes wrong with that is a refusal. -/
def count (app : App) (id : ℕ) (now : Timestamp) : App :=
  match app.tasks id with
  | some ⟨longPoll, input, .decoded frame⟩ =>
      match checkRateLimit now (rateScope frame.clientMessageId) 120 60
          app.counters with
      | (.error _, counters) =>
          { app with counters }.countError.setTask id ⟨longPoll, input,
            .answered (errorResponse .tooManyRequests frame.clientMessageId
              .rateLimited)⟩
      | (.ok _, counters) =>
          if longPoll then
            if frame.kind = .syncRequest then
              { app with counters }.setTask id ⟨longPoll, input, .subscribing frame⟩
            else
              { app with counters }.countError.setTask id ⟨longPoll, input,
                .answered (errorResponse .badRequest frame.clientMessageId
                  .malformed)⟩
          else { app with counters }.setTask id ⟨longPoll, input, .ready frame none⟩
  | _ => app

/-- A long poll subscribes; if that fails it goes on without a listener. -/
def listen (app : App) (id : ℕ) (granted : Bool) : App :=
  match app.tasks id with
  | some ⟨longPoll, input, .subscribing frame⟩ =>
      app.setTask id ⟨longPoll, input,
        .ready frame (if granted then some Listener.subscribed else none)⟩
  | _ => app

def dispatchTask (crypto : Crypto) (app : App) (id : ℕ) (moment : Moment) : App :=
  match app.tasks id with
  | none => app
  | some task =>
      match task.phase.pending with
      | none => app
      | some (frame, listener) =>
          let outcome := dispatch crypto moment frame app.db
          let served := { app with db := outcome.2 }.announce
            (notices crypto moment frame app.db)
          let counted := if outcome.1.isOk then served else served.countError
          counted.setTask id
            { task with phase := .afterDispatch frame listener outcome.1 }

/-- The wait is over, with a notification or without one. -/
def wake (app : App) (id : ℕ) (timeout : Bool) : App :=
  match app.tasks id with
  | some ⟨longPoll, input, .waiting frame listener⟩ =>
      if timeout || listener.inbox ≠ [] then
        app.setTask id ⟨longPoll, input, .woken frame⟩
      else app
  | _ => app

/-- The connection of a listener breaks and is made again. -/
def connection (app : App) (id : ℕ) (connected : Bool) (kept : ℕ) : App :=
  match app.tasks id with
  | some task =>
      app.setTask id { task with
        phase := task.phase.onListener fun listener =>
          ⟨connected, false, listener.inbox.take kept⟩ }
  | none => app

end App

/-- What happens next: a task moves, or the administrator cleans up or revokes a
device. -/
inductive Label where
  | arrive (id : ℕ) (longPoll : Bool) (input : Bytes)
  | count (id : ℕ) (now : Timestamp)
  | listen (id : ℕ) (granted : Bool)
  | dispatch (id : ℕ) (moment : Moment)
  | wake (id : ℕ) (timeout : Bool)
  | connection (id : ℕ) (connected : Bool) (kept : ℕ)
  | cleanup (now : Time) (batch : ℤ) (scan : Scan)
  | revoke (now : Time) (deviceId : Id16)

def step (crypto : Crypto) (app : App) : Label → App
  | .arrive id longPoll input => app.arrive id longPoll input
  | .count id now => app.count id now
  | .listen id granted => app.listen id granted
  | .dispatch id moment => app.dispatchTask crypto id moment
  | .wake id timeout => app.wake id timeout
  | .connection id connected kept => app.connection id connected kept
  | .cleanup now batch scan =>
      { app with db := (cleanupExpiredEvents now batch scan app.db).2 }
  | .revoke now deviceId =>
      { app with db := Revocation.revokeDevice now deviceId app.db }

/-! ## What a label does to a task -/

/-- The frame that a label dispatches. -/
def App.dispatched (app : App) (id : ℕ) : Option (TransportFrame × Option Listener) :=
  (app.tasks id).bind fun task => task.phase.pending

/-- What is announced by a label. -/
def news (crypto : Crypto) (app : App) : Label → List Bytes
  | .dispatch id moment =>
      (app.dispatched id).elim [] fun pending =>
        notices crypto moment pending.1 app.db
  | _ => []

def Task.hear (news : List Bytes) (task : Task) : Task :=
  { task with phase := task.phase.onListener (Listener.hear news) }

/-- What becomes of a task when a label is taken in `app`. -/
inductive Moves (crypto : Crypto) (app : App) (id : ℕ) :
    Label → Option Task → Option Task → Prop where
  | hears {label : Label} (task : Option Task)
      (hidle : ∀ moment, label = .dispatch id moment → app.dispatched id = none) :
      Moves crypto app id label task (task.map (Task.hear (news crypto app label)))
  | stays {label : Label} (task : Option Task)
      (hidle : ∀ moment, label = .dispatch id moment → app.dispatched id = none)
      (hsilent : news crypto app label = []) : Moves crypto app id label task task
  | malformed {longPoll : Bool} {input : Bytes}
      (hdecode : ∀ frame, TransportFrame.decode input ≠ .ok frame) :
      Moves crypto app id (.arrive id longPoll input) none (some ⟨longPoll, input,
        .answered (errorResponse .badRequest (FixedBytes.fill 16 0) .malformed)⟩)
  | arrived {longPoll : Bool} {input : Bytes} {frame : TransportFrame}
      (hdecode : TransportFrame.decode input = .ok frame) :
      Moves crypto app id (.arrive id longPoll input) none
        (some ⟨longPoll, input, .decoded frame⟩)
  | refused {longPoll : Bool} {input : Bytes} {frame : TransportFrame}
      {now : Timestamp} :
      Moves crypto app id (.count id now) (some ⟨longPoll, input, .decoded frame⟩)
        (some ⟨longPoll, input, .answered (errorResponse .tooManyRequests
          frame.clientMessageId .rateLimited)⟩)
  | unsuitable {input : Bytes} {frame : TransportFrame} {now : Timestamp}
      (hkind : frame.kind ≠ .syncRequest) :
      Moves crypto app id (.count id now) (some ⟨true, input, .decoded frame⟩)
        (some ⟨true, input, .answered (errorResponse .badRequest
          frame.clientMessageId .malformed)⟩)
  | polls {input : Bytes} {frame : TransportFrame} {now : Timestamp}
      (hkind : frame.kind = .syncRequest) :
      Moves crypto app id (.count id now) (some ⟨true, input, .decoded frame⟩)
        (some ⟨true, input, .subscribing frame⟩)
  | admitted {input : Bytes} {frame : TransportFrame} {now : Timestamp} :
      Moves crypto app id (.count id now) (some ⟨false, input, .decoded frame⟩)
        (some ⟨false, input, .ready frame none⟩)
  | listens {longPoll granted : Bool} {input : Bytes} {frame : TransportFrame} :
      Moves crypto app id (.listen id granted)
        (some ⟨longPoll, input, .subscribing frame⟩)
        (some ⟨longPoll, input,
          .ready frame (if granted then some Listener.subscribed else none)⟩)
  | dispatched {task : Task} {frame : TransportFrame} {listener : Option Listener}
      {moment : Moment} (hpending : task.phase.pending = some (frame, listener)) :
      Moves crypto app id (.dispatch id moment) (some task)
        (some { task with
          phase := .afterDispatch frame listener
            (dispatch crypto moment frame app.db).1 })
  | woken {longPoll timeout : Bool} {input : Bytes} {frame : TransportFrame}
      {listener : Listener} :
      Moves crypto app id (.wake id timeout)
        (some ⟨longPoll, input, .waiting frame listener⟩)
        (some ⟨longPoll, input, .woken frame⟩)
  | reconnected {task : Task} {connected : Bool} {kept : ℕ} :
      Moves crypto app id (.connection id connected kept) (some task)
        (some { task with
          phase := task.phase.onListener fun listener =>
            ⟨connected, false, listener.inbox.take kept⟩ })

section Steps

variable {crypto : Crypto} {app : App} {id : ℕ}

@[simp]
theorem setTask_same (app : App) (id : ℕ) (task : Task) :
    (app.setTask id task).tasks id = some task := by
  simp [App.setTask]

theorem setTask_other (app : App) {id other : ℕ} (task : Task) (hother : other ≠ id) :
    (app.setTask id task).tasks other = app.tasks other := by
  simp [App.setTask, hother]

theorem moves_arrive (target : ℕ) (longPoll : Bool) (input : Bytes) :
    Moves crypto app id (.arrive target longPoll input) (app.tasks id)
      ((app.arrive target longPoll input).tasks id) := by
  unfold App.arrive
  split
  · exact .stays _ (by simp) rfl
  case h_2 hnone =>
    split
    · exact .stays _ (by simp) rfl
    dsimp only
    by_cases hid : id = target
    · subst hid
      rw [hnone]
      split
      case h_1 frame hdecode =>
        rw [setTask_same]
        exact .arrived hdecode
      case h_2 failure hdecode =>
        rw [setTask_same]
        exact .malformed fun frame hok => by rw [hdecode] at hok; cases hok
    · split
      · rw [setTask_other _ _ hid]
        exact .stays _ (by simp) rfl
      · rw [setTask_other _ _ hid]
        exact .stays _ (by simp) rfl

theorem moves_count (target : ℕ) (now : Timestamp) :
    Moves crypto app id (.count target now) (app.tasks id)
      ((app.count target now).tasks id) := by
  unfold App.count
  split
  case h_2 => exact .stays _ (by simp) rfl
  case h_1 longPoll input frame htask =>
    by_cases hid : id = target
    · subst hid
      rw [htask]
      split
      · rw [setTask_same]
        exact .refused
      · cases longPoll with
        | false =>
            rw [if_neg (by simp), setTask_same]
            exact .admitted
        | true =>
            rw [if_pos rfl]
            split
            case isTrue hkind =>
              rw [setTask_same]
              exact .polls hkind
            case isFalse hkind =>
              rw [setTask_same]
              exact .unsuitable hkind
    · split
      · rw [setTask_other _ _ hid]
        exact .stays _ (by simp) rfl
      · split
        · split <;> rw [setTask_other _ _ hid] <;> exact .stays _ (by simp) rfl
        · rw [setTask_other _ _ hid]
          exact .stays _ (by simp) rfl

theorem moves_listen (target : ℕ) (granted : Bool) :
    Moves crypto app id (.listen target granted) (app.tasks id)
      ((app.listen target granted).tasks id) := by
  unfold App.listen
  split
  case h_2 => exact .stays _ (by simp) rfl
  case h_1 longPoll input frame htask =>
    by_cases hid : id = target
    · subst hid
      rw [htask, setTask_same]
      exact .listens
    · rw [setTask_other _ _ hid]
      exact .stays _ (by simp) rfl

theorem dispatchTask_of_pending {task : Task} {frame : TransportFrame}
    {listener : Option Listener} (moment : Moment) (htask : app.tasks id = some task)
    (hpending : task.phase.pending = some (frame, listener)) :
    app.dispatchTask crypto id moment =
      ((if (dispatch crypto moment frame app.db).1.isOk then
          { app with db := (dispatch crypto moment frame app.db).2 }.announce
            (notices crypto moment frame app.db)
        else
          ({ app with db := (dispatch crypto moment frame app.db).2 }.announce
            (notices crypto moment frame app.db)).countError).setTask id
        { task with
          phase := .afterDispatch frame listener
            (dispatch crypto moment frame app.db).1 }) := by
  unfold App.dispatchTask
  simp only [htask, hpending]

theorem dispatchTask_of_idle (moment : Moment) (hidle : app.dispatched id = none) :
    app.dispatchTask crypto id moment = app := by
  unfold App.dispatchTask
  unfold App.dispatched at hidle
  cases htask : app.tasks id with
  | none => rfl
  | some task =>
      rw [htask, Option.bind_some] at hidle
      simp only [hidle]

theorem moves_dispatch (target : ℕ) (moment : Moment) :
    Moves crypto app id (.dispatch target moment) (app.tasks id)
      ((app.dispatchTask crypto target moment).tasks id) := by
  cases hdispatched : app.dispatched target with
  | none =>
      rw [dispatchTask_of_idle moment hdispatched]
      refine .stays _ ?_ (by rw [news, hdispatched]; rfl)
      intro other hother
      cases hother
      exact hdispatched
  | some pending =>
      obtain ⟨frame, listener⟩ := pending
      obtain ⟨task, htask, hpending⟩ := Option.bind_eq_some_iff.mp hdispatched
      rw [dispatchTask_of_pending moment htask hpending]
      by_cases hid : id = target
      · subst hid
        rw [htask, setTask_same]
        exact .dispatched hpending
      · rw [setTask_other _ _ hid]
        have hidle : ∀ other, Label.dispatch target moment = .dispatch id other →
            app.dispatched id = none := by
          intro other hother
          cases hother
          exact absurd rfl hid
        have hnews : news crypto app (.dispatch target moment) =
            notices crypto moment frame app.db := by
          rw [news, hdispatched]
          rfl
        split
        · simp only [App.announce]
          rw [← hnews]
          exact .hears (app.tasks id) hidle
        · simp only [App.announce, App.countError]
          rw [← hnews]
          exact .hears (app.tasks id) hidle

theorem moves_wake (target : ℕ) (timeout : Bool) :
    Moves crypto app id (.wake target timeout) (app.tasks id)
      ((app.wake target timeout).tasks id) := by
  unfold App.wake
  split
  case h_2 => exact .stays _ (by simp) rfl
  case h_1 longPoll input frame listener htask =>
    split
    · by_cases hid : id = target
      · subst hid
        rw [htask, setTask_same]
        exact .woken
      · rw [setTask_other _ _ hid]
        exact .stays _ (by simp) rfl
    · exact .stays _ (by simp) rfl

theorem moves_connection (target : ℕ) (connected : Bool) (kept : ℕ) :
    Moves crypto app id (.connection target connected kept) (app.tasks id)
      ((app.connection target connected kept).tasks id) := by
  unfold App.connection
  split
  case h_2 => exact .stays _ (by simp) rfl
  case h_1 task htask =>
    by_cases hid : id = target
    · subst hid
      rw [htask, setTask_same]
      exact .reconnected
    · rw [setTask_other _ _ hid]
      exact .stays _ (by simp) rfl

/-- Every task makes one of these moves at every label. -/
theorem step_moves (label : Label) :
    Moves crypto app id label (app.tasks id) ((step crypto app label).tasks id) := by
  cases label with
  | arrive target longPoll input => exact moves_arrive target longPoll input
  | count target now => exact moves_count target now
  | listen target granted => exact moves_listen target granted
  | dispatch target moment => exact moves_dispatch target moment
  | wake target timeout => exact moves_wake target timeout
  | connection target connected kept => exact moves_connection target connected kept
  | cleanup now batch scan => exact .stays _ (by simp) rfl
  | revoke now deviceId => exact .stays _ (by simp) rfl

end Steps

/-! ## The database under the handler -/

/-- What a label does to the database, if anything. -/
def onDatabase (app : App) : Label → Option Sessions.Label
  | .dispatch id moment =>
      (app.dispatched id).map fun pending => .request ⟨moment, pending.1⟩
  | .cleanup now batch scan => some (.cleanup now batch scan)
  | .revoke now deviceId => some (.revoke now deviceId)
  | _ => none

theorem step_db (crypto : Crypto) (app : App) (label : Label) :
    (step crypto app label).db =
      (onDatabase app label).elim app.db (Sessions.step crypto app.db) := by
  cases label with
  | arrive id longPoll input =>
      simp only [step, App.arrive]
      split
      · rfl
      · split
        · rfl
        · split <;> rfl
  | count id now =>
      simp only [step, App.count]
      split
      · split
        · rfl
        · split
          · split <;> rfl
          · rfl
      · rfl
  | listen id granted =>
      simp only [step, App.listen]
      split <;> rfl
  | dispatch id moment =>
      simp only [step, onDatabase]
      cases hdispatched : app.dispatched id with
      | none =>
          rw [dispatchTask_of_idle moment hdispatched]
          rfl
      | some pending =>
          obtain ⟨frame, listener⟩ := pending
          obtain ⟨task, htask, hpending⟩ := Option.bind_eq_some_iff.mp hdispatched
          rw [dispatchTask_of_pending moment htask hpending]
          split <;> rfl
  | wake id timeout =>
      simp only [step, App.wake]
      split
      · split <;> rfl
      · rfl
  | connection id connected kept =>
      simp only [step, App.connection]
      split <;> rfl
  | cleanup now batch scan => rfl
  | revoke now deviceId => rfl

/-- The database goes through the requests in the order of their dispatches. -/
theorem run_db (crypto : Crypto) (labels : List Label) :
    (run (step crypto) App.start labels).db =
      run (Sessions.step crypto) Database.migrated
        (picked (step crypto) onDatabase App.start labels) := by
  induction labels using List.reverseRecOn with
  | nil => rfl
  | append_singleton labels label ih =>
      rw [run_append, run_cons, run_nil, step_db, picked_concat, run_append, ← ih]
      cases onDatabase (run (step crypto) App.start labels) label with
      | none => rfl
      | some change => rfl

end ResilientMessenger.Endpoint
