import Mathlib.Data.List.Dedup
import ResilientMessenger.Transport.Exchanges

/-!
# A flush, frame by frame

A flush passes the frames of its queue one after the other, each in the state in
which the frame before left the manager, until the queue is empty or nobody takes a
frame (`FlushCourse`).  The list of relays is gone through from its start for every
frame; but a relay that has failed cools down for the rest of the call, and nothing
in the loop ends its cooldown, so within one flush every relay fails at most once.
-/

namespace ResilientMessenger.Flushes

open ResilientMessenger.ByteCodec
open ResilientMessenger.Directory
open ResilientMessenger.Manager
open ResilientMessenger.Contacts
open ResilientMessenger.Exchanges
open ResilientMessenger.Outbox (deliveries)

variable {σ : Type}

/-- A frame of the queue with the exchanges it took. -/
structure Passage where
  bytes : Bytes
  exchanges : List Exchange

def Passage.round (passage : Passage) : Round where
  bytes := passage.bytes
  contacts := calls passage.bytes passage.exchanges
  delivered := response passage.exchanges

/-- The frames of the queue are passed in order, each as `F` says, from the state in
which the frame before left the manager.  A frame that is delivered leaves the queue,
and the first that is not ends the flush. -/
inductive FlushCourse
    (F : Bytes → TransportManager σ → List Exchange → TransportManager σ → Prop) :
    TransportManager σ → List Passage → TransportManager σ → Prop where
  | drained {manager : TransportManager σ} (hempty : manager.outbox = []) :
      FlushCourse F manager [] manager
  | stuck {manager after : TransportManager σ} {frame : QueuedFrame}
      {frames : List QueuedFrame} {exchanges : List Exchange}
      (hqueue : manager.outbox = frame :: frames)
      (hframe : F frame.bytes manager exchanges after)
      (hnone : response exchanges = none) :
      FlushCourse F manager [⟨frame.bytes, exchanges⟩] after
  | delivered {manager after final : TransportManager σ} {frame : QueuedFrame}
      {frames : List QueuedFrame} {exchanges : List Exchange} {value : Bytes}
      {passages : List Passage}
      (hqueue : manager.outbox = frame :: frames)
      (hframe : F frame.bytes manager exchanges after)
      (hvalue : response exchanges = some value)
      (hrest : FlushCourse F { after with outbox := after.outbox.tail } passages final) :
      FlushCourse F manager (⟨frame.bytes, exchanges⟩ :: passages) final

theorem FlushCourse.mono
    {F G : Bytes → TransportManager σ → List Exchange → TransportManager σ → Prop}
    (hweaker : ∀ bytes manager exchanges after, F bytes manager exchanges after →
      G bytes manager exchanges after)
    {manager after : TransportManager σ} {passages : List Passage}
    (hcourse : FlushCourse F manager passages after) :
    FlushCourse G manager passages after := by
  induction hcourse with
  | drained hempty => exact .drained hempty
  | stuck hqueue hframe hnone => exact .stuck hqueue (hweaker _ _ _ _ hframe) hnone
  | delivered hqueue hframe hvalue _ ih =>
      exact .delivered hqueue (hweaker _ _ _ _ hframe) hvalue ih

theorem flushLoop_course (sender : EndpointSender σ) (now : UInt64)
    (frames : List QueuedFrame) (earlier : List Bytes) (manager : TransportManager σ)
    (hframes : manager.outbox = frames) :
    ∃ passages,
      FlushCourse (Processed sender now) manager passages
        (TransportManager.flushLoop sender now frames earlier manager).2.1 ∧
      (TransportManager.flushLoop sender now frames earlier manager).2.2 =
        passages.map Passage.round := by
  induction frames generalizing earlier manager with
  | nil => exact ⟨[], .drained hframes, rfl⟩
  | cons frame frames ih =>
      obtain ⟨exchanges, after, hframe⟩ : ∃ exchanges after,
        Processed sender now frame.bytes manager exchanges after := exists_course _ _
      have hdeliver : manager.deliver sender now frame.bytes =
          (response exchanges, after, calls frame.bytes exchanges) := hframe.loop
      simp only [TransportManager.flushLoop, hdeliver]
      cases hresponse : response exchanges with
      | none =>
          refine ⟨[⟨frame.bytes, exchanges⟩], .stuck hframes hframe hresponse, ?_⟩
          simp [Passage.round, hresponse]
      | some value =>
          have hqueue : after.outbox = frame :: frames := hframe.standing.2.trans hframes
          obtain ⟨passages, hcourse, hrounds⟩ := ih (earlier ++ [value])
            { after with outbox := after.outbox.tail } (by rw [hqueue, List.tail_cons])
          refine ⟨⟨frame.bytes, exchanges⟩ :: passages,
            .delivered hframes hframe hresponse hcourse, ?_⟩
          simp [Passage.round, hresponse, hrounds]

theorem flush_course (sender : EndpointSender σ) (now : UInt64)
    (manager : TransportManager σ) :
    ∃ passages,
      FlushCourse (Processed sender now) manager passages
        (manager.flush sender now).2.1 ∧
      (manager.flush sender now).2.2 = passages.map Passage.round :=
  flushLoop_course sender now manager.outbox [] manager rfl

/-- Whatever the state and the network, every frame of a flush is processed as the
reference says. -/
theorem flush_conforms (sender : EndpointSender σ) (now : UInt64)
    (manager : TransportManager σ) (hnow : now.toNat ≤ 2 ^ 64 - 512) :
    ∃ passages,
      FlushCourse (Conforms sender now) manager passages (manager.flush sender now).2.1 ∧
      (manager.flush sender now).2.2 = passages.map Passage.round := by
  obtain ⟨passages, hcourse, hrounds⟩ := flush_course sender now manager
  refine ⟨passages, hcourse.mono ?_, hrounds⟩
  intro bytes manager exchanges after hframe
  exact hframe.conforms hnow

/-- The first relay fails over both channels and the second takes both frames. -/
theorem failover_conforms :
    ∃ passages,
      FlushCourse (Conforms Outbox.scripted 1000)
        (Outbox.sampleQueue [false, false, true, true]) passages
        ((Outbox.sampleQueue [false, false, true, true]).flush Outbox.scripted 1000).2.1 ∧
      ((Outbox.sampleQueue [false, false, true, true]).flush Outbox.scripted 1000).2.2 =
        passages.map Passage.round :=
  flush_conforms Outbox.scripted 1000 (Outbox.sampleQueue [false, false, true, true])
    (by decide)

/-! ## Every relay fails at most once -/

/-- The entry of the id is in cooldown. -/
def coolingId (manager : TransportManager σ) (now : UInt64) (id : Id16) : Bool :=
  (manager.health.lookup id).any fun health => now < health.retryAfter

/-- The ids that failed over both channels, in the order of their failures. -/
def allFailed (passages : List Passage) : List Id16 :=
  passages.flatMap fun passage => failedIds passage.exchanges

section Failures

variable {sender : EndpointSender σ} {now : UInt64} {bytes : Bytes}
  {highestPriority : Option Id16} {endpoints : List RelayEndpoint}
  {manager after : TransportManager σ} {exchanges : List Exchange}

theorem failedIds_nodup (hnow : now.toNat ≤ 2 ^ 64 - 512)
    (hcourse : Course sender now bytes highestPriority endpoints manager exchanges after) :
    (failedIds exchanges).Nodup :=
  (hcourse.nodup hnow).sublist (List.filter_sublist.map Exchange.endpointId)

/-- Whoever is asked does not cool down. -/
theorem ready_of_asked (hnow : now.toNat ≤ 2 ^ 64 - 512)
    (hcourse : Course sender now bytes highestPriority endpoints manager exchanges after)
    {id : Id16} (hid : id ∈ exchanges.map Exchange.endpointId) :
    coolingId manager now id = false := by
  obtain ⟨made, hmade, rfl⟩ := List.mem_map.mp hid
  exact hcourse.ready hnow made hmade

theorem cooling_of_failed (hnow : now.toNat ≤ 2 ^ 64 - 512)
    (hcourse : Course sender now bytes highestPriority endpoints manager exchanges after)
    {id : Id16} (hid : id ∈ failedIds exchanges) : coolingId after now id = true := by
  unfold coolingId
  rw [hcourse.lookup_health hnow, healthAfter_eq, if_pos hid]
  simp [penalised, now_lt_cooldown hnow]

/-- No frame ends a cooldown. -/
theorem cooling_stays (hnow : now.toNat ≤ 2 ^ 64 - 512)
    (hcourse : Course sender now bytes highestPriority endpoints manager exchanges after)
    {id : Id16} (hcooling : coolingId manager now id = true) :
    coolingId after now id = true := by
  have hunasked : id ∉ exchanges.map Exchange.endpointId := by
    intro hasked
    rw [ready_of_asked hnow hcourse hasked] at hcooling
    cases hcooling
  unfold coolingId
  rw [hcourse.lookup_health hnow, healthAfter_eq,
    if_neg fun hmem => hunasked (failedIds_subset exchanges hmem),
    if_neg fun hmem => hunasked (answeredIds_subset exchanges hmem)]
  exact hcooling

/-- Within a flush no id fails twice, and none fails that cools down at its start. -/
theorem FlushCourse.allFailed_nodup (hnow : now.toNat ≤ 2 ^ 64 - 512)
    {passages : List Passage}
    (hcourse : FlushCourse (Processed sender now) manager passages after) :
    (allFailed passages).Nodup ∧
      ∀ id ∈ allFailed passages, coolingId manager now id = false := by
  induction hcourse with
  | drained => exact ⟨List.nodup_nil, by simp [allFailed]⟩
  | stuck _ hframe _ =>
      simp only [allFailed, List.flatMap_cons, List.flatMap_nil, List.append_nil]
      exact ⟨failedIds_nodup hnow hframe, fun id hid =>
        ready_of_asked hnow hframe (failedIds_subset _ hid)⟩
  | @delivered manager after final frame frames exchanges value passages _ hframe _ _ ih =>
      have hlater (id : Id16) (hid : id ∈ allFailed passages) :
          coolingId after now id = false := ih.2 id hid
      have hsplit : allFailed (⟨frame.bytes, exchanges⟩ :: passages) =
          failedIds exchanges ++ allFailed passages := rfl
      rw [hsplit]
      constructor
      · refine (failedIds_nodup hnow hframe).append ih.1 ?_
        intro id hfailed hagain
        have hcooling := cooling_of_failed hnow hframe hfailed
        rw [hlater id hagain] at hcooling
        cases hcooling
      · intro id hid
        rcases List.mem_append.mp hid with hfirst | hagain
        · exact ready_of_asked hnow hframe (failedIds_subset _ hfirst)
        · rw [Bool.eq_false_iff]
          intro hcooling
          have hstays := cooling_stays hnow hframe hcooling
          rw [hlater id hagain] at hstays
          cases hstays

end Failures

/-! ## Calls of the sender -/

def byWebsocket (contact : Contact) : Bool := contact.channel = .websocket

def byHttps (contact : Contact) : Bool := contact.channel = .https

/-- The second channel failed too: the endpoint with this id has failed. -/
def failedHttps (id : Id16) (contact : Contact) : Bool :=
  byHttps contact && contact.answer.toOption.isNone &&
    decide (contact.endpoint.endpointId = id)

theorem countP_calls (p : Contact → Bool) (bytes : Bytes) (exchanges : List Exchange) :
    (calls bytes exchanges).countP p =
      (exchanges.map fun made => (made.calls bytes).countP p).sum :=
  List.countP_flatMap

theorem websocket_calls (bytes : Bytes) (exchanges : List Exchange) :
    (calls bytes exchanges).countP byWebsocket = exchanges.length := by
  rw [countP_calls]
  induction exchanges with
  | nil => rfl
  | cons made exchanges ih =>
      have hmade : (made.calls bytes).countP byWebsocket = 1 := by cases made <;> rfl
      rw [List.map_cons, List.sum_cons, hmade, ih, List.length_cons, Nat.add_comm]

theorem https_calls_le (bytes : Bytes) (exchanges : List Exchange) :
    (calls bytes exchanges).countP byHttps ≤ exchanges.length := by
  rw [countP_calls]
  induction exchanges with
  | nil => exact Nat.le_refl 0
  | cons made exchanges ih =>
      have hmade : (made.calls bytes).countP byHttps ≤ 1 := by
        cases made
        · exact Nat.zero_le 1
        all_goals exact Nat.le_refl 1
      rw [List.map_cons, List.sum_cons, List.length_cons]
      omega

theorem failed_calls (bytes : Bytes) (id : Id16) (exchanges : List Exchange) :
    (calls bytes exchanges).countP (failedHttps id) = (failedIds exchanges).count id := by
  rw [countP_calls]
  induction exchanges with
  | nil => rfl
  | cons made exchanges ih =>
      rw [List.map_cons, List.sum_cons, ih]
      cases made with
      | websocket | https =>
          simp [Exchange.calls, failedHttps, byHttps, failedIds, Exchange.response,
            Exchange.answer, Except.toOption]
      | failed endpoint first second =>
          rw [failedIds_cons rfl, List.count_cons, Nat.add_comm]
          by_cases hid : endpoint.endpointId = id <;>
            simp [Exchange.calls, failedHttps, byHttps, Except.toOption,
              Exchange.endpointId, Exchange.endpoint, hid]

theorem length_exchanges (exchanges : List Exchange) :
    exchanges.length = (answeredIds exchanges).length + (failedIds exchanges).length := by
  unfold answeredIds failedIds
  rw [List.length_map, List.length_map]
  exact List.length_eq_length_filter_add _

theorem contacts_cons (passage : Passage) (passages : List Passage) :
    contacts ((passage :: passages).map Passage.round) =
      calls passage.bytes passage.exchanges ++ contacts (passages.map Passage.round) := rfl

section Counts

variable {sender : EndpointSender σ} {now : UInt64} {manager after : TransportManager σ}
  {passages : List Passage}

theorem countP_failedHttps (id : Id16) (passages : List Passage) :
    (contacts (passages.map Passage.round)).countP (failedHttps id) =
      (allFailed passages).count id := by
  induction passages with
  | nil => rfl
  | cons passage passages ih =>
      have hsplit : allFailed (passage :: passages) =
          failedIds passage.exchanges ++ allFailed passages := rfl
      rw [contacts_cons, List.countP_append, failed_calls, ih, hsplit, List.count_append]

theorem countP_byHttps_le (passages : List Passage) :
    (contacts (passages.map Passage.round)).countP byHttps ≤
      (contacts (passages.map Passage.round)).countP byWebsocket := by
  induction passages with
  | nil => exact Nat.le_refl 0
  | cons passage passages ih =>
      have hhttps := https_calls_le passage.bytes passage.exchanges
      rw [contacts_cons, List.countP_append, List.countP_append, websocket_calls]
      omega

/-- A call by WebSocket is answered in the end, or its endpoint fails. -/
theorem FlushCourse.countP_byWebsocket
    (hcourse : FlushCourse (Processed sender now) manager passages after) :
    (contacts (passages.map Passage.round)).countP byWebsocket =
      (deliveries (passages.map Passage.round)).length + (allFailed passages).length := by
  induction hcourse with
  | drained => rfl
  | stuck _ hframe hnone =>
      have hanswered := hframe.length_answeredIds
      rw [contacts_cons, List.countP_append, websocket_calls, length_exchanges, hanswered]
      simp [contacts, deliveries, Passage.round, allFailed, hnone]
  | delivered _ hframe hvalue _ ih =>
      have hanswered := hframe.length_answeredIds
      rw [contacts_cons, List.countP_append, websocket_calls, length_exchanges, hanswered,
        ih]
      simp [deliveries, Passage.round, allFailed, hvalue]
      omega

theorem FlushCourse.allFailed_subset
    (hcourse : FlushCourse (Processed sender now) manager passages after) :
    allFailed passages ⊆ manager.directory.endpoints.map RelayEndpoint.endpointId := by
  have hframe {bytes : Bytes} {manager after : TransportManager σ}
      {exchanges : List Exchange}
      (hframe : Processed sender now bytes manager exchanges after) :
      failedIds exchanges ⊆ manager.directory.endpoints.map RelayEndpoint.endpointId := by
    intro id hid
    obtain ⟨made, hmade, rfl⟩ := List.mem_map.mp (failedIds_subset exchanges hid)
    exact List.mem_map_of_mem (mem_sortedEndpoints.mp (hframe.mem_endpoints made hmade))
  induction hcourse with
  | drained => exact List.nil_subset _
  | stuck _ hfirst _ =>
      simpa [allFailed] using hframe hfirst
  | delivered _ hfirst _ _ ih =>
      refine List.append_subset_of_subset_of_subset (hframe hfirst) ?_
      rw [← hfirst.directory]
      exact ih

end Counts

/-! ## Turns of the loop -/

/-- One turn of `while let Some(frame) = self.outbox.front()`: the call ends, or it
goes on with these responses and this manager. -/
def turn (sender : EndpointSender σ) (now : UInt64) (responses : List Bytes)
    (manager : TransportManager σ) :
    (Except TransportError (List Bytes) × TransportManager σ) ⊕
      (List Bytes × TransportManager σ) :=
  match manager.outbox with
  | [] => .inl (.ok responses, manager)
  | frame :: _ =>
      match manager.deliver sender now frame.bytes with
      | (some value, after, _) =>
          .inr (responses ++ [value], { after with outbox := after.outbox.tail })
      | (none, after, _) => .inl (.error .unavailable, after)

/-- The end of the call, if it comes within that many turns. -/
def endsWithin (sender : EndpointSender σ) (now : UInt64) :
    ℕ → List Bytes → TransportManager σ →
      Option (Except TransportError (List Bytes) × TransportManager σ)
  | 0, _, _ => none
  | turns + 1, responses, manager =>
      match turn sender now responses manager with
      | .inl outcome => some outcome
      | .inr next => endsWithin sender now turns next.1 next.2

/-- Every turn but the last shortens the queue. -/
theorem endsWithin_flushLoop (sender : EndpointSender σ) (now : UInt64)
    (frames : List QueuedFrame) (responses : List Bytes) (manager : TransportManager σ)
    (hframes : manager.outbox = frames) :
    endsWithin sender now (frames.length + 1) responses manager =
      some ((TransportManager.flushLoop sender now frames responses manager).1,
        (TransportManager.flushLoop sender now frames responses manager).2.1) := by
  induction frames generalizing responses manager with
  | nil => simp [endsWithin, turn, hframes, TransportManager.flushLoop]
  | cons frame frames ih =>
      obtain ⟨exchanges, after, hframe⟩ : ∃ exchanges after,
        Processed sender now frame.bytes manager exchanges after := exists_course _ _
      have hdeliver : manager.deliver sender now frame.bytes =
          (response exchanges, after, calls frame.bytes exchanges) := hframe.loop
      have hqueue : after.outbox = frame :: frames := hframe.standing.2.trans hframes
      rw [List.length_cons, endsWithin, turn, hframes]
      simp only [TransportManager.flushLoop, hdeliver]
      cases response exchanges with
      | none => rfl
      | some value =>
          exact ih (responses ++ [value]) { after with outbox := after.outbox.tail }
            (by rw [hqueue, List.tail_cons])

/-- In one flush every endpoint id fails at most once, however many frames wait.  So
the calls by WebSocket are at most the frames delivered and the distinct ids of the
directory, those by HTTPS are no more, and the loop ends after one turn for each frame
and one more. -/
theorem flush_bounded (sender : EndpointSender σ) (now : UInt64)
    (manager : TransportManager σ) (hnow : now.toNat ≤ 2 ^ 64 - 512) :
    (∀ id, (contacts (manager.flush sender now).2.2).countP (failedHttps id) ≤ 1) ∧
      (contacts (manager.flush sender now).2.2).countP byWebsocket ≤
        (deliveries (manager.flush sender now).2.2).length +
          (manager.directory.endpoints.map RelayEndpoint.endpointId).dedup.length ∧
      (contacts (manager.flush sender now).2.2).countP byHttps ≤
        (contacts (manager.flush sender now).2.2).countP byWebsocket ∧
      endsWithin sender now (manager.outbox.length + 1) [] manager =
        some ((manager.flush sender now).1, (manager.flush sender now).2.1) := by
  obtain ⟨passages, hcourse, hrounds⟩ := flush_course sender now manager
  have hnodup := (hcourse.allFailed_nodup hnow).1
  rw [hrounds]
  refine ⟨?_, ?_, countP_byHttps_le passages, ?_⟩
  · intro id
    rw [countP_failedHttps]
    exact List.nodup_iff_count_le_one.mp hnodup id
  · have hsubset := List.Subset.trans hcourse.allFailed_subset (List.subset_dedup _)
    have hlength := (List.subperm_of_subset hnodup hsubset).length_le
    rw [hcourse.countP_byWebsocket]
    omega
  · exact endsWithin_flushLoop sender now manager.outbox [] manager rfl

/-- Two frames and two relays, of which the first fails: three calls by WebSocket. -/
theorem failover_bounded :
    (contacts ((Outbox.sampleQueue [false, false, true, true]).flush
        Outbox.scripted 1000).2.2).countP byWebsocket = 3 ∧
      (contacts ((Outbox.sampleQueue [false, false, true, true]).flush
          Outbox.scripted 1000).2.2).countP byWebsocket ≤
        (deliveries ((Outbox.sampleQueue [false, false, true, true]).flush
          Outbox.scripted 1000).2.2).length +
          (Outbox.sampleDirectory.endpoints.map RelayEndpoint.endpointId).dedup.length :=
  ⟨by decide +kernel, (flush_bounded Outbox.scripted 1000
    (Outbox.sampleQueue [false, false, true, true]) (by decide)).2.1⟩

end ResilientMessenger.Flushes
