import ResilientMessenger.Core.Runs
import ResilientMessenger.Transport.Outbox

/-!
# Reasoning about a manager through its sender

What a manager does depends on the network, and most of what can be said about it
follows from what can be said about one call of the sender: a condition `P` that
every call keeps and a relation `Q` between the bytes and the answer.
`run_answers` carries both through the loops of `flush` and through whole runs.
`run_blocked` is the rule for a frame that is never answered: it stays at the head
of the queue and nothing else is sent.
-/

namespace ResilientMessenger.SenderRules

open ResilientMessenger.ByteCodec
open ResilientMessenger.Frames
open ResilientMessenger.Directory
open ResilientMessenger.Manager
open ResilientMessenger.Outbox (Operation flush_spec)
open ResilientMessenger.Runs

variable {σ : Type}

/-- A call that keeps `P` and answers only what `Q` allows. -/
def Obeys (P : σ → Prop) (Q : Bytes → Bytes → Prop)
    (call : σ → RelayEndpoint → Bytes → Except TransportError Bytes × σ) : Prop :=
  ∀ state endpoint bytes, P state → P (call state endpoint bytes).2 ∧
    ∀ value, (call state endpoint bytes).1 = .ok value → Q bytes value

structure SenderObeys (P : σ → Prop) (Q : Bytes → Bytes → Prop)
    (sender : EndpointSender σ) : Prop where
  websocket : Obeys P Q sender.sendWebsocket
  https : Obeys P Q sender.sendHttps

section Rules

variable {sender : EndpointSender σ} {P : σ → Prop} {Q : Bytes → Bytes → Prop}

theorem attempt_obeys
    {call : σ → RelayEndpoint → Bytes → Except TransportError Bytes × σ}
    (hcall : Obeys P Q call) (manager : TransportManager σ) (endpoint : RelayEndpoint)
    (bytes : Bytes) (hstate : P manager.sender) :
    P (manager.attempt call endpoint bytes).2.sender ∧
      ∀ value, (manager.attempt call endpoint bytes).1 = .ok value → Q bytes value :=
  hcall manager.sender endpoint bytes hstate

theorem send_obeys (hobeys : SenderObeys P Q sender) (manager : TransportManager σ)
    (endpoint : RelayEndpoint) (bytes : Bytes) (hstate : P manager.sender) :
    P (manager.send sender endpoint bytes).2.1.sender ∧
      ∀ value, (manager.send sender endpoint bytes).1 = .ok value → Q bytes value := by
  obtain ⟨hkept, hallowed⟩ :=
    attempt_obeys hobeys.websocket manager endpoint bytes hstate
  unfold TransportManager.send
  generalize manager.attempt sender.sendWebsocket endpoint bytes = first
    at hkept hallowed ⊢
  obtain ⟨failure | value, after⟩ := first
  · exact attempt_obeys hobeys.https after.countWebsocketFailure endpoint bytes hkept
  · exact ⟨hkept, hallowed⟩

theorem sender_healthEntry (manager : TransportManager σ) (endpointId : Id16) :
    (manager.healthEntry endpointId).2.sender = manager.sender := by
  unfold TransportManager.healthEntry
  split <;> rfl

theorem tryEndpoints_obeys (hobeys : SenderObeys P Q sender) (now : UInt64)
    (bytes : Bytes) (highestPriority : Option Id16) (endpoints : List RelayEndpoint)
    (manager : TransportManager σ) (hstate : P manager.sender) :
    P (TransportManager.tryEndpoints sender now bytes highestPriority endpoints
        manager).2.1.sender ∧
      ∀ value, (TransportManager.tryEndpoints sender now bytes highestPriority endpoints
        manager).1 = some value → Q bytes value := by
  induction endpoints generalizing manager with
  | nil => exact ⟨hstate, by simp [TransportManager.tryEndpoints]⟩
  | cons endpoint endpoints ih =>
      simp only [TransportManager.tryEndpoints]
      have hentered := sender_healthEntry manager endpoint.endpointId
      generalize manager.healthEntry endpoint.endpointId = entry at hentered ⊢
      obtain ⟨health, entered⟩ := entry
      dsimp only at hentered ⊢
      rw [← hentered] at hstate
      split
      · exact ih entered hstate
      · obtain ⟨hkept, hallowed⟩ := send_obeys hobeys entered endpoint bytes hstate
        generalize entered.send sender endpoint bytes = sent at hkept hallowed ⊢
        obtain ⟨failure | value, after, contacts⟩ := sent
        · exact ih (after.recordFailure now endpoint health) hkept
        · refine ⟨hkept, ?_⟩
          rintro _ ⟨⟩
          exact hallowed value rfl

theorem flushLoop_obeys (hobeys : SenderObeys P Q sender) (now : UInt64)
    (frames : List QueuedFrame) (responses : List Bytes) (manager : TransportManager σ)
    (hstate : P manager.sender) :
    P (TransportManager.flushLoop sender now frames responses manager).2.1.sender ∧
      ∀ round ∈ (TransportManager.flushLoop sender now frames responses manager).2.2,
        ∀ value, round.delivered = some value → Q round.bytes value := by
  induction frames generalizing responses manager with
  | nil => exact ⟨hstate, by simp [TransportManager.flushLoop]⟩
  | cons frame frames ih =>
      simp only [TransportManager.flushLoop, TransportManager.deliver]
      obtain ⟨hkept, hallowed⟩ := tryEndpoints_obeys hobeys now frame.bytes
        (manager.sortedEndpoints.head?.map RelayEndpoint.endpointId)
        manager.sortedEndpoints manager hstate
      generalize TransportManager.tryEndpoints sender now frame.bytes
        (manager.sortedEndpoints.head?.map RelayEndpoint.endpointId)
        manager.sortedEndpoints manager = tried at hkept hallowed ⊢
      obtain ⟨_ | value, after, contacts⟩ := tried
      · refine ⟨hkept, ?_⟩
        intro round hround value hvalue
        rw [List.mem_singleton] at hround
        subst hround
        cases hvalue
      · obtain ⟨hlater, hrounds⟩ := ih (responses ++ [value])
          { after with outbox := after.outbox.tail } hkept
        refine ⟨hlater, ?_⟩
        intro round hround found hfound
        rcases List.mem_cons.mp hround with rfl | hround
        · cases hfound
          exact hallowed value rfl
        · exact hrounds round hround found hfound

theorem sender_enqueue (manager : TransportManager σ) (frame : TransportFrame) :
    (manager.enqueue frame).2.sender = manager.sender := by
  unfold TransportManager.enqueue
  split
  · rfl
  · split <;> rfl

theorem sender_updateDirectory (scheme : SignatureScheme) (manager : TransportManager σ)
    (next : SignedRelayDirectory) (now : UInt64) :
    (manager.updateDirectory scheme next now).2.sender = manager.sender := by
  unfold TransportManager.updateDirectory
  split <;> rfl

/-- What holds of a session whose sender obeys. -/
def Answered (P : σ → Prop) (Q : Bytes → Bytes → Prop) (session : Outbox.Session σ) :
    Prop :=
  P session.manager.sender ∧ ∀ round ∈ session.rounds, ∀ value,
    round.delivered = some value → Q round.bytes value

theorem step_answers (hobeys : SenderObeys P Q sender) (scheme : SignatureScheme)
    (session : Outbox.Session σ) (operation : Operation)
    (hanswered : Answered P Q session) :
    Answered P Q (session.step scheme sender operation) := by
  obtain ⟨hstate, hrounds⟩ := hanswered
  cases operation with
  | enqueue frame =>
      refine ⟨?_, hrounds⟩
      rw [Outbox.Session.step, Outbox.Session.enqueue, sender_enqueue]
      exact hstate
  | flush now =>
      obtain ⟨hkept, hlater⟩ :=
        flushLoop_obeys hobeys now session.manager.outbox [] session.manager hstate
      refine ⟨hkept, ?_⟩
      intro round hround
      rcases List.mem_append.mp hround with hround | hround
      · exact hrounds round hround
      · exact hlater round hround
  | updateDirectory next now =>
      refine ⟨?_, hrounds⟩
      rw [Outbox.Session.step, sender_updateDirectory]
      exact hstate
  | notifyNetworkChange => exact ⟨hstate, hrounds⟩

theorem run_answers (hobeys : SenderObeys P Q sender) (scheme : SignatureScheme)
    {manager : TransportManager σ} (hstate : P manager.sender)
    (operations : List Operation) :
    Answered P Q (run (Outbox.Session.step scheme sender) (Outbox.Session.start manager)
      operations) := by
  apply run_invariant (step_answers hobeys scheme)
  exact ⟨hstate, by simp [Outbox.Session.start]⟩

/-! ## A frame that is never answered -/

/-- The queue still starts as it did, nothing was taken off it and only its head
was ever sent. -/
structure Blocked (head : QueuedFrame) (rest : List QueuedFrame)
    (session : Outbox.Session σ) : Prop where
  queue : head :: rest <+: session.manager.outbox
  removed : session.removed = []
  rounds : ∀ round ∈ session.rounds, round.bytes = head.bytes ∧ round.delivered = none

variable {head : QueuedFrame} {rest : List QueuedFrame}

theorem flush_blocked (hobeys : SenderObeys P (fun bytes _ => bytes ≠ head.bytes) sender)
    {manager : TransportManager σ} (hstate : P manager.sender)
    (hqueue : head :: rest <+: manager.outbox) (now : UInt64) :
    (manager.flush sender now).2.1.outbox = manager.outbox ∧
      ∀ round ∈ (manager.flush sender now).2.2,
        round.bytes = head.bytes ∧ round.delivered = none := by
  obtain ⟨-, hrounds⟩ := flushLoop_obeys hobeys now manager.outbox [] manager hstate
  obtain ⟨responses, remaining, hflushed, houtbox, -⟩ := flush_spec sender now manager
  rw [houtbox]
  obtain ⟨more, hmore⟩ := hqueue
  rw [List.cons_append] at hmore
  rw [TransportManager.flush] at hflushed ⊢
  rw [← hmore] at hflushed hrounds ⊢
  generalize (TransportManager.flushLoop sender now (head :: (rest ++ more)) []
    manager).2.2 = rounds at hflushed hrounds ⊢
  cases hflushed with
  | stuck frame frames contacts hsettles =>
      refine ⟨rfl, ?_⟩
      intro round hround
      rw [List.mem_singleton] at hround
      rw [hround]
      exact ⟨rfl, rfl⟩
  | delivered frame contacts value hsettles hrest =>
      exact absurd rfl (hrounds _ (List.mem_cons_self) value rfl)

theorem outbox_enqueue (manager : TransportManager σ) (frame : TransportFrame) :
    manager.outbox <+: (manager.enqueue frame).2.outbox := by
  unfold TransportManager.enqueue
  split
  · exact List.prefix_rfl
  · split
    · exact List.prefix_rfl
    · exact List.prefix_append _ _

theorem step_blocked (hobeys : SenderObeys P (fun bytes _ => bytes ≠ head.bytes) sender)
    (scheme : SignatureScheme) (session : Outbox.Session σ) (operation : Operation)
    (hstate : P session.manager.sender) (hblocked : Blocked head rest session) :
    Blocked head rest (session.step scheme sender operation) := by
  cases operation with
  | enqueue frame =>
      exact ⟨hblocked.queue.trans (outbox_enqueue session.manager frame),
        hblocked.removed, hblocked.rounds⟩
  | flush now =>
      obtain ⟨houtbox, hrounds⟩ := flush_blocked hobeys hstate hblocked.queue now
      constructor
      · simp only [Outbox.Session.step, Outbox.Session.flush]
        rw [houtbox]
        exact hblocked.queue
      · simp only [Outbox.Session.step, Outbox.Session.flush]
        rw [houtbox, Nat.sub_self, List.take_zero, hblocked.removed]
        rfl
      · intro round hround
        rcases List.mem_append.mp hround with hround | hround
        · exact hblocked.rounds round hround
        · exact hrounds round hround
  | updateDirectory next now =>
      refine ⟨?_, hblocked.removed, hblocked.rounds⟩
      simp only [Outbox.Session.step, TransportManager.updateDirectory]
      split
      · exact hblocked.queue
      · exact hblocked.queue
  | notifyNetworkChange => exact ⟨hblocked.queue, hblocked.removed, hblocked.rounds⟩

theorem run_blocked (hobeys : SenderObeys P (fun bytes _ => bytes ≠ head.bytes) sender)
    (scheme : SignatureScheme) {manager : TransportManager σ} (hstate : P manager.sender)
    (hqueue : manager.outbox = head :: rest) (operations : List Operation) :
    Blocked head rest
      (run (Outbox.Session.step scheme sender) (Outbox.Session.start manager)
        operations) := by
  have hstep : ∀ session operation,
      Answered P (fun bytes _ => bytes ≠ head.bytes) session ∧ Blocked head rest session →
        Answered P (fun bytes _ => bytes ≠ head.bytes)
            (session.step scheme sender operation) ∧
          Blocked head rest (session.step scheme sender operation) := by
    rintro session operation ⟨hanswered, hblocked⟩
    exact ⟨step_answers hobeys scheme session operation hanswered,
      step_blocked hobeys scheme session operation hanswered.1 hblocked⟩
  have hstart : Blocked head rest (Outbox.Session.start manager) := by
    refine ⟨⟨[], ?_⟩, rfl, by simp [Outbox.Session.start]⟩
    rw [List.append_nil]
    exact hqueue.symm
  have hnothing : Answered P (fun bytes _ => bytes ≠ head.bytes)
      (Outbox.Session.start manager) := ⟨hstate, by simp [Outbox.Session.start]⟩
  exact (run_invariant hstep ⟨hnothing, hstart⟩ operations).2

end Rules

end ResilientMessenger.SenderRules
