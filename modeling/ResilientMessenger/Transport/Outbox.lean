import ResilientMessenger.Core.Runs
import ResilientMessenger.Transport.Manager

/-!
# The outbox contract

A flush is a sequence of rounds.  In each round the sender is asked about one
frame until it answers `Ok` once or the endpoints are exhausted; the frame
leaves the queue in the first case and the flush ends in the second
(`Flushed`).  From this one description follow the contract of whole runs, that
nothing queued is lost, duplicated or reordered, and the exact condition under
which a flush hands over every response it received.
-/

namespace ResilientMessenger.Outbox

open ResilientMessenger.ByteCodec
open ResilientMessenger.Frames
open ResilientMessenger.Directory
open ResilientMessenger.Manager
open ResilientMessenger.Runs

variable {σ : Type}

/-! ## Rounds -/

/-- The sender refused these bytes. -/
def Refused (bytes : Bytes) (contact : Contact) : Prop :=
  contact.bytes = bytes ∧ contact.answer.toOption = none

/-- All contacts are about these bytes.  Without a response every answer is a
refusal; with one, it is the `Ok` answer of the last contact and the only one. -/
def Settles (bytes : Bytes) (contacts : List Contact) : Option Bytes → Prop
  | none => ∀ contact ∈ contacts, Refused bytes contact
  | some value => ∃ refused last, contacts = refused ++ [last] ∧
      (∀ contact ∈ refused, Refused bytes contact) ∧
      last.bytes = bytes ∧ last.answer = .ok value

def Settled (round : Round) : Prop :=
  Settles round.bytes round.contacts round.delivered

theorem settles_append {bytes : Bytes} {left right : List Contact}
    {delivered : Option Bytes} (hleft : Settles bytes left none)
    (hright : Settles bytes right delivered) :
    Settles bytes (left ++ right) delivered := by
  cases delivered with
  | none =>
      intro contact hcontact
      rcases List.mem_append.mp hcontact with hmem | hmem
      · exact hleft contact hmem
      · exact hright contact hmem
  | some value =>
      obtain ⟨refused, last, rfl, hrefused, hlast⟩ := hright
      refine ⟨left ++ refused, last, by simp, ?_, hlast⟩
      intro contact hcontact
      rcases List.mem_append.mp hcontact with hmem | hmem
      · exact hleft contact hmem
      · exact hrefused contact hmem

/-- One endpoint: at most two contacts, the first of them refused if there are
two. -/
theorem settles_send (sender : EndpointSender σ) (manager : TransportManager σ)
    (endpoint : RelayEndpoint) (bytes : Bytes) :
    Settles bytes (manager.send sender endpoint bytes).2.2
      (manager.send sender endpoint bytes).1.toOption := by
  unfold TransportManager.send
  rcases manager.attempt sender.sendWebsocket endpoint bytes with
    ⟨failure | value, after⟩
  · have hfirst : Refused bytes ⟨endpoint, .websocket, bytes, .error failure⟩ :=
      ⟨rfl, rfl⟩
    dsimp only
    rcases after.countWebsocketFailure.attempt sender.sendHttps endpoint bytes with
      ⟨failure | value, last⟩
    · simp [Settles, Refused, Except.toOption]
    · exact ⟨[⟨endpoint, .websocket, bytes, .error failure⟩], _, rfl,
        by simpa using hfirst, rfl, rfl⟩
  · exact ⟨[], _, rfl, by simp, rfl, rfl⟩

@[simp]
theorem outbox_healthEntry (manager : TransportManager σ) (endpointId : Id16) :
    (manager.healthEntry endpointId).2.outbox = manager.outbox := by
  unfold TransportManager.healthEntry
  split <;> rfl

/-- What no attempt changes is the same after a send. -/
theorem send_keeps {β : Type} (f : TransportManager σ → β) (sender : EndpointSender σ)
    (manager : TransportManager σ) (endpoint : RelayEndpoint) (bytes : Bytes)
    (hattempt : ∀ before call, f (before.attempt call endpoint bytes).2 = f before)
    (hcount : ∀ before : TransportManager σ, f before.countWebsocketFailure = f before) :
    f (manager.send sender endpoint bytes).2.1 = f manager := by
  unfold TransportManager.send
  split
  case h_1 value after hanswer =>
    rw [← hattempt manager sender.sendWebsocket, hanswer]
  case h_2 failure after hanswer =>
    rw [← hattempt manager sender.sendWebsocket, hanswer]
    calc
      f (after.countWebsocketFailure.attempt sender.sendHttps endpoint bytes).2 =
          f after.countWebsocketFailure := hattempt _ _
      _ = f after := hcount after

@[simp]
theorem outbox_send (sender : EndpointSender σ) (manager : TransportManager σ)
    (endpoint : RelayEndpoint) (bytes : Bytes) :
    (manager.send sender endpoint bytes).2.1.outbox = manager.outbox :=
  send_keeps TransportManager.outbox sender manager endpoint bytes (fun _ _ => rfl)
    (fun _ => rfl)

/-- Trying the endpoints settles the frame and leaves the queue alone. -/
theorem tryEndpoints_spec (sender : EndpointSender σ) (now : UInt64)
    (bytes : Bytes) (highestPriority : Option Id16)
    (endpoints : List RelayEndpoint) (manager : TransportManager σ) :
    Settles bytes
        (TransportManager.tryEndpoints sender now bytes highestPriority endpoints
          manager).2.2
        (TransportManager.tryEndpoints sender now bytes highestPriority endpoints
          manager).1 ∧
      (TransportManager.tryEndpoints sender now bytes highestPriority endpoints
        manager).2.1.outbox = manager.outbox := by
  induction endpoints generalizing manager with
  | nil => simp [TransportManager.tryEndpoints, Settles]
  | cons endpoint endpoints ih =>
      have hentered := outbox_healthEntry manager endpoint.endpointId
      simp only [TransportManager.tryEndpoints]
      generalize manager.healthEntry endpoint.endpointId = entry at hentered ⊢
      obtain ⟨health, entered⟩ := entry
      dsimp only at hentered ⊢
      split
      · rw [← hentered]
        exact ih entered
      · have hsettles := settles_send sender entered endpoint bytes
        have houtbox := outbox_send sender entered endpoint bytes
        rw [← hentered, ← houtbox]
        generalize entered.send sender endpoint bytes = sent at hsettles ⊢
        obtain ⟨failure | value, after, contacts⟩ := sent
        · obtain ⟨hlater, hkept⟩ := ih (after.recordFailure now endpoint health)
          exact ⟨settles_append hsettles hlater, hkept⟩
        · exact ⟨hsettles, rfl⟩

/-! ## A whole flush -/

/-- The rounds of a flush over these frames, with the responses and the frames
that stay queued. -/
inductive Flushed :
    List QueuedFrame → List Round → List Bytes → List QueuedFrame → Prop where
  | drained : Flushed [] [] [] []
  | stuck (frame : QueuedFrame) (frames : List QueuedFrame)
      (contacts : List Contact) (hsettles : Settles frame.bytes contacts none) :
      Flushed (frame :: frames) [⟨frame.bytes, contacts, none⟩] []
        (frame :: frames)
  | delivered (frame : QueuedFrame) (contacts : List Contact) (value : Bytes)
      {frames remaining : List QueuedFrame} {rounds : List Round}
      {responses : List Bytes}
      (hsettles : Settles frame.bytes contacts (some value))
      (hrest : Flushed frames rounds responses remaining) :
      Flushed (frame :: frames) (⟨frame.bytes, contacts, some value⟩ :: rounds)
        (value :: responses) remaining

theorem flushLoop_spec (sender : EndpointSender σ) (now : UInt64)
    (frames : List QueuedFrame) (earlier : List Bytes)
    (manager : TransportManager σ) (hframes : manager.outbox = frames) :
    ∃ responses remaining,
      Flushed frames
        (TransportManager.flushLoop sender now frames earlier manager).2.2
        responses remaining ∧
      (TransportManager.flushLoop sender now frames earlier
        manager).2.1.outbox = remaining ∧
      (TransportManager.flushLoop sender now frames earlier manager).1 =
        if remaining = [] then .ok (earlier ++ responses)
        else .error .unavailable := by
  induction frames generalizing earlier manager with
  | nil => exact ⟨[], [], .drained, hframes, by simp [TransportManager.flushLoop]⟩
  | cons frame frames ih =>
      obtain ⟨hsettles, houtbox⟩ := tryEndpoints_spec sender now frame.bytes
        (manager.sortedEndpoints.head?.map RelayEndpoint.endpointId)
        manager.sortedEndpoints manager
      simp only [TransportManager.flushLoop, TransportManager.deliver]
      generalize TransportManager.tryEndpoints sender now frame.bytes
        (manager.sortedEndpoints.head?.map RelayEndpoint.endpointId)
        manager.sortedEndpoints manager = tried at hsettles houtbox ⊢
      obtain ⟨_ | value, after, contacts⟩ := tried
      · exact ⟨[], frame :: frames, .stuck frame frames contacts hsettles,
          houtbox.trans hframes, by simp⟩
      · dsimp only at hsettles houtbox ⊢
        obtain ⟨responses, remaining, hrest, hremaining, hresult⟩ :=
          ih (earlier ++ [value]) { after with outbox := after.outbox.tail }
            (by rw [houtbox, hframes, List.tail_cons])
        exact ⟨value :: responses, remaining,
          .delivered frame contacts value hsettles hrest, hremaining,
          by simpa using hresult⟩

theorem flush_spec (sender : EndpointSender σ) (now : UInt64)
    (manager : TransportManager σ) :
    ∃ responses remaining,
      Flushed manager.outbox (manager.flush sender now).2.2 responses
        remaining ∧
      (manager.flush sender now).2.1.outbox = remaining ∧
      (manager.flush sender now).1 =
        if remaining = [] then .ok responses else .error .unavailable :=
  flushLoop_spec sender now manager.outbox [] manager rfl

/-- The frames that were delivered, each with its response. -/
def deliveries (rounds : List Round) : List (Bytes × Bytes) :=
  rounds.filterMap fun round => round.delivered.map fun value =>
    (round.bytes, value)

section Flushed

variable {frames remaining : List QueuedFrame} {rounds : List Round}
  {responses : List Bytes}

theorem Flushed.settled (hflushed : Flushed frames rounds responses remaining) :
    ∀ round ∈ rounds, Settled round := by
  induction hflushed with
  | drained => simp
  | stuck frame frames contacts hsettles => simpa [Settled] using hsettles
  | delivered frame contacts value hsettles _ ih =>
      simpa [Settled] using ⟨hsettles, ih⟩

/-- A flush takes an initial segment off the queue. -/
theorem Flushed.removed (hflushed : Flushed frames rounds responses remaining) :
    ∃ removed, frames = removed ++ remaining ∧
      removed.map QueuedFrame.bytes = (deliveries rounds).map Prod.fst := by
  induction hflushed with
  | drained => exact ⟨[], rfl, rfl⟩
  | stuck frame frames contacts hsettles => exact ⟨[], rfl, rfl⟩
  | delivered frame contacts value hsettles _ ih =>
      obtain ⟨removed, rfl, hbytes⟩ := ih
      exact ⟨frame :: removed, rfl, by simpa [deliveries] using hbytes⟩

theorem Flushed.responses_eq
    (hflushed : Flushed frames rounds responses remaining) :
    responses = (deliveries rounds).map Prod.snd := by
  induction hflushed with
  | drained => rfl
  | stuck frame frames contacts hsettles => rfl
  | delivered frame contacts value hsettles _ ih => simp [deliveries, ih]

theorem Flushed.length (hflushed : Flushed frames rounds responses remaining) :
    frames.length = responses.length + remaining.length := by
  induction hflushed with
  | drained => rfl
  | stuck frame frames contacts hsettles => simp
  | delivered frame contacts value hsettles _ ih =>
      rw [List.length_cons, List.length_cons, ih]
      omega

theorem Flushed.remaining_eq
    (hflushed : Flushed frames rounds responses remaining)
    (hnone : responses.length = 0) : remaining = frames := by
  cases hflushed with
  | drained => rfl
  | stuck frame frames contacts hsettles => rfl
  | delivered frame contacts value hsettles hrest => simp at hnone

end Flushed

/-! ## Runs -/

inductive Operation where
  | enqueue (frame : TransportFrame)
  | flush (now : UInt64)
  | updateDirectory (next : SignedRelayDirectory) (now : UInt64)
  | notifyNetworkChange

/-- The manager with the record of a run: the encodings of the frames that were
accepted while their id was not pending, the bytes taken off the queue, and the
rounds of all flushes. -/
structure Session (σ : Type) where
  manager : TransportManager σ
  accepted : List Bytes
  removed : List Bytes
  rounds : List Round

def Session.start (manager : TransportManager σ) : Session σ where
  manager
  accepted := []
  removed := []
  rounds := []

def pendingIds (manager : TransportManager σ) : List Id16 :=
  manager.outbox.map QueuedFrame.clientMessageId

def Session.enqueue (session : Session σ) (frame : TransportFrame) : Session σ :=
  { session with
    manager := (session.manager.enqueue frame).2
    accepted :=
      match (session.manager.enqueue frame).1, frame.encode with
      | .ok (), .ok bytes =>
          if session.manager.outbox.any fun queued =>
              queued.clientMessageId = frame.clientMessageId then
            session.accepted
          else session.accepted ++ [bytes]
      | _, _ => session.accepted }

/-- Whatever the queue lost at its front counts as removed. -/
def Session.flush (sender : EndpointSender σ) (session : Session σ)
    (now : UInt64) : Session σ :=
  let before := session.manager.outbox
  let after := (session.manager.flush sender now).2.1
  { session with
    manager := after
    removed := session.removed ++
      (before.take (before.length - after.outbox.length)).map QueuedFrame.bytes
    rounds := session.rounds ++ (session.manager.flush sender now).2.2 }

def Session.step (scheme : SignatureScheme) (sender : EndpointSender σ)
    (session : Session σ) : Operation → Session σ
  | .enqueue frame => session.enqueue frame
  | .flush now => session.flush sender now
  | .updateDirectory next now =>
      { session with
        manager := (session.manager.updateDirectory scheme next now).2 }
  | .notifyNetworkChange =>
      { session with manager := session.manager.notifyNetworkChange }

/-- The contract of the outbox.  It is about the rounds that the flushes record; by
`Flushes.flush_course` they are the sender's own calls and answers. -/
structure Contract (session : Session σ) : Prop where
  distinct : (pendingIds session.manager).Nodup
  ordered : session.removed ++ session.manager.outbox.map QueuedFrame.bytes =
    session.accepted
  delivered : session.removed = (deliveries session.rounds).map Prod.fst
  settled : ∀ round ∈ session.rounds, Settled round

theorem contract_start {manager : TransportManager σ}
    (hempty : manager.outbox = []) : Contract (Session.start manager) where
  distinct := by simp [pendingIds, Session.start, hempty]
  ordered := by simp [Session.start, hempty]
  delivered := rfl
  settled := by simp [Session.start]

/-- A change that leaves the queue and the records alone keeps the contract. -/
theorem Contract.of_same_outbox {session : Session σ} (hcontract : Contract session)
    {manager : TransportManager σ}
    (houtbox : manager.outbox = session.manager.outbox) :
    Contract { session with manager } where
  distinct := by
    simp only [pendingIds, houtbox]
    exact hcontract.distinct
  ordered := by
    simp only [houtbox]
    exact hcontract.ordered
  delivered := hcontract.delivered
  settled := hcontract.settled

theorem mem_pendingIds {manager : TransportManager σ} {id : Id16} :
    (manager.outbox.any fun queued => queued.clientMessageId = id) = true ↔
      id ∈ pendingIds manager := by
  simp [pendingIds]

theorem contract_enqueue {session : Session σ} (hcontract : Contract session)
    (frame : TransportFrame) : Contract (session.enqueue frame) := by
  unfold Session.enqueue TransportManager.enqueue
  cases hencode : frame.encode with
  | error failure => exact hcontract
  | ok bytes =>
      by_cases hpending : frame.clientMessageId ∈ pendingIds session.manager
      · simpa [mem_pendingIds.mpr hpending] using hcontract
      · have hfree := mem_pendingIds.not.mpr hpending
        simp only [if_neg hfree]
        refine ⟨?_, ?_, hcontract.delivered, hcontract.settled⟩
        · simp only [pendingIds, List.map_append, List.map_cons, List.map_nil]
          exact hcontract.distinct.append (List.nodup_singleton _)
            (List.disjoint_singleton.mpr hpending)
        · simp [← hcontract.ordered]

theorem contract_flush (sender : EndpointSender σ) {session : Session σ}
    (hcontract : Contract session) (now : UInt64) :
    Contract (session.flush sender now) := by
  obtain ⟨responses, remaining, hflushed, houtbox, -⟩ :=
    flush_spec sender now session.manager
  obtain ⟨removed, hframes, hbytes⟩ := hflushed.removed
  have hremoved : session.manager.outbox.take
      (session.manager.outbox.length - remaining.length) = removed := by
    rw [hframes, List.length_append, Nat.add_sub_cancel, List.take_left]
  have hdeliveries : deliveries
      (session.rounds ++ (session.manager.flush sender now).2.2) =
      deliveries session.rounds ++
        deliveries (session.manager.flush sender now).2.2 :=
    List.filterMap_append
  unfold Session.flush
  dsimp only
  rw [houtbox, hremoved]
  refine ⟨?_, ?_, ?_, ?_⟩
  · have hdistinct := hcontract.distinct
    rw [pendingIds, hframes, List.map_append] at hdistinct
    simp only [pendingIds, houtbox]
    exact hdistinct.of_append_right
  · simp only [houtbox]
    rw [← hcontract.ordered, hframes, List.map_append, List.append_assoc]
  · simp only [hdeliveries, List.map_append, hbytes, hcontract.delivered]
  · intro round hround
    rcases List.mem_append.mp hround with hmem | hmem
    · exact hcontract.settled round hmem
    · exact hflushed.settled round hmem

theorem contract_step (scheme : SignatureScheme) (sender : EndpointSender σ)
    (session : Session σ) (operation : Operation) (hcontract : Contract session) :
    Contract (session.step scheme sender operation) := by
  cases operation with
  | enqueue frame => exact contract_enqueue hcontract frame
  | flush now => exact contract_flush sender hcontract now
  | updateDirectory next now =>
      apply hcontract.of_same_outbox
      unfold TransportManager.updateDirectory
      split <;> rfl
  | notifyNetworkChange => exact hcontract.of_same_outbox rfl

theorem outbox_new {scheme : SignatureScheme} {sender : σ}
    {directory : SignedRelayDirectory} {verificationKey : Id32} {now : UInt64}
    {manager : TransportManager σ}
    (hnew : TransportManager.new scheme sender directory verificationKey now =
      .ok manager) : manager.outbox = [] := by
  unfold TransportManager.new at hnew
  cases hverify : directory.verify scheme verificationKey now 0 with
  | error failure => simp [hverify, bind, Except.bind] at hnew
  | ok =>
      simp only [hverify, bind, Except.bind, pure, Except.pure,
        Except.ok.injEq] at hnew
      rw [← hnew]

/-- Whatever the sender answers, after every run the pending ids are distinct,
the removed frames followed by the queued ones are the accepted ones in order,
and the removed frames are those of the delivering rounds, each of which ends
with the one `Ok` answer for exactly its bytes. -/
theorem outbox_contract (scheme : SignatureScheme) (sender : EndpointSender σ)
    (state : σ) (directory : SignedRelayDirectory) (verificationKey : Id32)
    (now : UInt64) (manager : TransportManager σ)
    (hnew : TransportManager.new scheme state directory verificationKey now =
      .ok manager) (operations : List Operation) :
    Contract (run (Session.step scheme sender) (Session.start manager)
      operations) :=
  run_invariant (contract_step scheme sender) (contract_start (outbox_new hnew))
    operations

/-- A sender that answers by a script: `true` echoes the frame and anything
else refuses it. -/
def scripted : EndpointSender (List Bool) where
  sendWebsocket script _ bytes :=
    (if script.head? = some true then .ok bytes else .error .unavailable,
      script.tail)
  sendHttps script _ bytes :=
    (if script.head? = some true then .ok bytes else .error .unavailable,
      script.tail)

def sampleDirectory : SignedRelayDirectory where
  version := 2
  issuedAt := 999
  expiresAt := 4600
  endpoints :=
    [⟨FixedBytes.fill 16 1, "wss://a/ws", "https://a/sync", 1⟩,
      ⟨FixedBytes.fill 16 2, "wss://b/ws", "https://b/sync", 2⟩]
  signature := SignatureScheme.neutralSignature

def sampleFrame (id : UInt8) : TransportFrame where
  version := 1
  kind := .uploadEnvelope
  clientMessageId := FixedBytes.fill 16 id
  ttlSeconds := 60
  body := [id]

/-- What `new` returns for the sample directory. -/
def sampleManager (script : List Bool) : TransportManager (List Bool) where
  sender := script
  directory := sampleDirectory
  verificationKey := SignatureScheme.neutralKey
  outbox := []
  health := Table.empty
  counters := ⟨0, 0, 0, 0, 0, 0⟩
  preferredEndpoint := none

/-- The first relay fails, the second takes over, and a frame that is queued
twice is sent once. -/
theorem outbox_contract_failover :
    Contract (run (Session.step SignatureScheme.neutral scripted)
      (Session.start (sampleManager [false, false, true, false, true]))
      [.enqueue (sampleFrame 8), .enqueue (sampleFrame 8), .flush 1000,
        .enqueue (sampleFrame 9), .notifyNetworkChange, .flush 1060]) :=
  outbox_contract SignatureScheme.neutral scripted _ sampleDirectory
    SignatureScheme.neutralKey 1000 _ rfl _

/-! ## Responses reach the caller -/

/-- No frame leaves the queue unless its response is handed to the caller: an
error comes with an unchanged queue, and a success with exactly the responses
of the removed frames. -/
def ResponsesHanded (before : TransportManager σ)
    (outcome : Except TransportError (List Bytes) × TransportManager σ ×
      List Round) : Prop :=
  match outcome.1 with
  | .error _ => outcome.2.1.outbox = before.outbox
  | .ok responses =>
      before.outbox.map QueuedFrame.bytes =
          (deliveries outcome.2.2).map Prod.fst ++
            outcome.2.1.outbox.map QueuedFrame.bytes ∧
        responses = (deliveries outcome.2.2).map Prod.snd

def answeredOk (contact : Contact) : Bool := contact.answer.toOption.isSome

/-- How often the sender answered `Ok`. -/
def okAnswers (rounds : List Round) : ℕ :=
  (rounds.flatMap Round.contacts).countP answeredOk

theorem countP_of_refused {bytes : Bytes} {contacts : List Contact}
    (hrefused : ∀ contact ∈ contacts, Refused bytes contact) :
    contacts.countP answeredOk = 0 := by
  rw [List.countP_eq_zero]
  intro contact hcontact
  simp [answeredOk, (hrefused contact hcontact).2]

/-- The sender answers `Ok` once for every frame that leaves the queue. -/
theorem Flushed.okAnswers_eq {frames remaining : List QueuedFrame}
    {rounds : List Round} {responses : List Bytes}
    (hflushed : Flushed frames rounds responses remaining) :
    okAnswers rounds = responses.length := by
  induction hflushed with
  | drained => rfl
  | stuck frame frames contacts hsettles =>
      simpa [okAnswers] using countP_of_refused hsettles
  | @delivered frame contacts value frames remaining rounds responses hsettles _
      ih =>
      obtain ⟨refused, last, rfl, hrefused, -, hlast⟩ := hsettles
      have hzero := countP_of_refused hrefused
      have hone : [last].countP answeredOk = 1 := by
        simp [answeredOk, hlast, Except.toOption]
      unfold okAnswers at ih ⊢
      rw [List.flatMap_cons, List.countP_append, List.countP_append, hzero, hone,
        ih, List.length_cons]
      omega

/-- A flush hands over every response it received exactly when the sender
answered `Ok` to nothing it was asked, or once for every queued frame. -/
theorem responses_handed_iff (sender : EndpointSender σ) (now : UInt64)
    (manager : TransportManager σ) :
    ResponsesHanded manager (manager.flush sender now) ↔
      okAnswers (manager.flush sender now).2.2 = 0 ∨
        okAnswers (manager.flush sender now).2.2 = manager.outbox.length := by
  obtain ⟨responses, remaining, hflushed, houtbox, hresult⟩ :=
    flush_spec sender now manager
  have hlength := hflushed.length
  rw [hflushed.okAnswers_eq]
  unfold ResponsesHanded
  rw [hresult, houtbox]
  by_cases hdrained : remaining = []
  · obtain ⟨removed, hframes, hbytes⟩ := hflushed.removed
    rw [if_pos hdrained]
    refine iff_of_true ⟨?_, hflushed.responses_eq⟩ (.inr ?_)
    · rw [hframes, List.map_append, hbytes]
    · simp [hlength, hdrained]
  · rw [if_neg hdrained]
    have hpositive := List.length_pos_iff.mpr hdrained
    constructor
    · intro hkept
      have hsame : remaining.length = manager.outbox.length := by rw [hkept]
      left
      omega
    · intro hanswers
      apply hflushed.remaining_eq
      omega

/-- A manager with two frames in its queue. -/
def sampleQueue (script : List Bool) : TransportManager (List Bool) :=
  (((sampleManager script).enqueue (sampleFrame 8)).2.enqueue (sampleFrame 9)).2

/-- The first of two frames is delivered and the second is refused everywhere:
the flush reports that the outbox is retained, and the response is gone. -/
theorem delivered_response_is_lost :
    ¬ResponsesHanded (sampleQueue [true])
      ((sampleQueue [true]).flush scripted 1000) := by
  have herror : ((sampleQueue [true]).flush scripted 1000).1 =
      .error .unavailable := by decide +kernel
  have hshorter : ((sampleQueue [true]).flush scripted 1000).2.1.outbox ≠
      (sampleQueue [true]).outbox := by decide +kernel
  intro hhanded
  rw [ResponsesHanded, herror] at hhanded
  exact hshorter hhanded

end ResilientMessenger.Outbox
