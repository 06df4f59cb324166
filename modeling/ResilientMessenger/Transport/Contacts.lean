import ResilientMessenger.Transport.Outbox

/-!
# Whom a flush contacts

The loop over the endpoints never looks at the directory: the directory enters a
flush only through the sorted list of its endpoints.  Exactly the relays whose
cooldown is over can be contacted, so a flush contacts nobody when its queue is
empty or all relays of the directory cool down.
-/

namespace ResilientMessenger.Contacts

open ResilientMessenger.ByteCodec
open ResilientMessenger.Directory
open ResilientMessenger.Manager
open ResilientMessenger.Outbox

variable {σ : Type}

/-- The same manager with another directory. -/
def withDirectory (manager : TransportManager σ) (directory : SignedRelayDirectory) :
    TransportManager σ :=
  { manager with directory }

/-- The calls of the sender over all rounds, in order. -/
def contacts (rounds : List Round) : List Contact := rounds.flatMap Round.contacts

/-! ## The directory is not read -/

section Frame

variable (directory : SignedRelayDirectory) (manager : TransportManager σ)

theorem healthEntry_withDirectory (endpointId : Id16) :
    (withDirectory manager directory).healthEntry endpointId =
      ((manager.healthEntry endpointId).1,
        withDirectory (manager.healthEntry endpointId).2 directory) := by
  unfold TransportManager.healthEntry
  cases hlookup : manager.health.lookup endpointId <;> simp [withDirectory, hlookup]

theorem attempt_withDirectory
    (call : σ → RelayEndpoint → Bytes → Except TransportError Bytes × σ)
    (endpoint : RelayEndpoint) (bytes : Bytes) :
    (withDirectory manager directory).attempt call endpoint bytes =
      ((manager.attempt call endpoint bytes).1,
        withDirectory (manager.attempt call endpoint bytes).2 directory) := rfl

theorem send_withDirectory (sender : EndpointSender σ) (endpoint : RelayEndpoint)
    (bytes : Bytes) :
    (withDirectory manager directory).send sender endpoint bytes =
      ((manager.send sender endpoint bytes).1,
        withDirectory (manager.send sender endpoint bytes).2.1 directory,
        (manager.send sender endpoint bytes).2.2) := by
  unfold TransportManager.send
  rw [attempt_withDirectory]
  generalize manager.attempt sender.sendWebsocket endpoint bytes = first
  obtain ⟨failure | value, after⟩ := first
  · have hcount : (withDirectory after directory).countWebsocketFailure =
        withDirectory after.countWebsocketFailure directory := rfl
    dsimp only
    rw [hcount, attempt_withDirectory]
  · rfl

/-- Trying a list of endpoints does the same whatever the directory is. -/
theorem tryEndpoints_withDirectory (sender : EndpointSender σ) (now : UInt64)
    (bytes : Bytes) (highestPriority : Option Id16) (endpoints : List RelayEndpoint) :
    TransportManager.tryEndpoints sender now bytes highestPriority endpoints
        (withDirectory manager directory) =
      ((TransportManager.tryEndpoints sender now bytes highestPriority endpoints
          manager).1,
        withDirectory (TransportManager.tryEndpoints sender now bytes highestPriority
          endpoints manager).2.1 directory,
        (TransportManager.tryEndpoints sender now bytes highestPriority endpoints
          manager).2.2) := by
  induction endpoints generalizing manager with
  | nil => rfl
  | cons endpoint endpoints ih =>
      simp only [TransportManager.tryEndpoints, healthEntry_withDirectory]
      generalize manager.healthEntry endpoint.endpointId = entry
      obtain ⟨health, entered⟩ := entry
      dsimp only
      split
      · exact ih entered
      · rw [send_withDirectory]
        generalize entered.send sender endpoint bytes = sent
        obtain ⟨failure | value, after, calls⟩ := sent
        · have hrest := ih (after.recordFailure now endpoint health)
          simp only [withDirectory] at hrest ⊢
          exact congrArg (fun rest => (rest.1, rest.2.1, calls ++ rest.2.2)) hrest
        · rfl

end Frame

/-! ## Fields that stay -/

/-- The part of a manager that no flush changes. -/
def identity (manager : TransportManager σ) : SignedRelayDirectory × Id32 :=
  (manager.directory, manager.verificationKey)

theorem identity_healthEntry (manager : TransportManager σ) (endpointId : Id16) :
    identity (manager.healthEntry endpointId).2 = identity manager := by
  unfold TransportManager.healthEntry
  split <;> rfl

theorem identity_send (sender : EndpointSender σ) (manager : TransportManager σ)
    (endpoint : RelayEndpoint) (bytes : Bytes) :
    identity (manager.send sender endpoint bytes).2.1 = identity manager :=
  send_keeps identity sender manager endpoint bytes (fun _ _ => rfl) (fun _ => rfl)

theorem identity_tryEndpoints (sender : EndpointSender σ) (now : UInt64)
    (bytes : Bytes) (highestPriority : Option Id16) (endpoints : List RelayEndpoint)
    (manager : TransportManager σ) :
    identity (TransportManager.tryEndpoints sender now bytes highestPriority endpoints
      manager).2.1 = identity manager := by
  induction endpoints generalizing manager with
  | nil => rfl
  | cons endpoint endpoints ih =>
      have hentered := identity_healthEntry manager endpoint.endpointId
      simp only [TransportManager.tryEndpoints]
      generalize manager.healthEntry endpoint.endpointId = entry at hentered ⊢
      obtain ⟨health, entered⟩ := entry
      dsimp only at hentered ⊢
      rw [← hentered]
      split
      · exact ih entered
      · have hsent := identity_send sender entered endpoint bytes
        generalize entered.send sender endpoint bytes = sent at hsent ⊢
        rw [← hsent]
        obtain ⟨failure | value, after, calls⟩ := sent
        · exact ih (after.recordFailure now endpoint health)
        · rfl

/-! ## Relays that are contacted -/

/-- The relay is in its cooldown. -/
def cooling (manager : TransportManager σ) (now : UInt64) (endpoint : RelayEndpoint) :
    Bool :=
  (manager.health.lookup endpoint.endpointId).any fun health => now < health.retryAfter

/-- An endpoint that is tried is called at least once, and nobody else is. -/
theorem send_contacts (sender : EndpointSender σ) (manager : TransportManager σ)
    (endpoint : RelayEndpoint) (bytes : Bytes) :
    (manager.send sender endpoint bytes).2.2 ≠ [] ∧
      ∀ contact ∈ (manager.send sender endpoint bytes).2.2,
        contact.endpoint = endpoint := by
  unfold TransportManager.send
  split <;> simp

/-- A cooling relay is skipped without a trace. -/
theorem healthEntry_cooling {manager : TransportManager σ} {now : UInt64}
    {endpoint : RelayEndpoint} :
    cooling manager now endpoint = true ↔
      now < (manager.healthEntry endpoint.endpointId).1.retryAfter := by
  unfold cooling TransportManager.healthEntry
  cases hlookup : manager.health.lookup endpoint.endpointId <;> simp

theorem healthEntry_of_cooling {manager : TransportManager σ} {now : UInt64}
    {endpoint : RelayEndpoint} (hcooling : cooling manager now endpoint = true) :
    (manager.healthEntry endpoint.endpointId).2 = manager := by
  unfold cooling at hcooling
  unfold TransportManager.healthEntry
  cases hlookup : manager.health.lookup endpoint.endpointId with
  | none => simp [hlookup] at hcooling
  | some health => rfl

theorem tryEndpoints_contacts_mem (sender : EndpointSender σ) (now : UInt64)
    (bytes : Bytes) (highestPriority : Option Id16) (endpoints : List RelayEndpoint)
    (manager : TransportManager σ) :
    ∀ contact ∈ (TransportManager.tryEndpoints sender now bytes highestPriority
      endpoints manager).2.2, contact.endpoint ∈ endpoints := by
  induction endpoints generalizing manager with
  | nil => simp [TransportManager.tryEndpoints]
  | cons endpoint endpoints ih =>
      intro contact hcontact
      simp only [TransportManager.tryEndpoints] at hcontact
      generalize manager.healthEntry endpoint.endpointId = entry at hcontact
      obtain ⟨health, entered⟩ := entry
      dsimp only at hcontact
      split at hcontact
      · exact List.mem_cons_of_mem _ (ih entered contact hcontact)
      · have hsend := (send_contacts sender entered endpoint bytes).2
        generalize entered.send sender endpoint bytes = sent at hcontact hsend
        obtain ⟨failure | value, after, calls⟩ := sent
        · rcases List.mem_append.mp hcontact with hfirst | hlater
          · rw [hsend contact hfirst]
            exact List.mem_cons_self
          · exact List.mem_cons_of_mem _ (ih _ contact hlater)
        · rw [hsend contact hcontact]
          exact List.mem_cons_self

/-- Nobody is called exactly when all endpoints cool down. -/
theorem tryEndpoints_contacts_nil (sender : EndpointSender σ) (now : UInt64)
    (bytes : Bytes) (highestPriority : Option Id16) (endpoints : List RelayEndpoint)
    (manager : TransportManager σ) :
    (TransportManager.tryEndpoints sender now bytes highestPriority endpoints
        manager).2.2 = [] ↔
      ∀ endpoint ∈ endpoints, cooling manager now endpoint = true := by
  induction endpoints generalizing manager with
  | nil => simp [TransportManager.tryEndpoints]
  | cons endpoint endpoints ih =>
      rw [List.forall_mem_cons]
      by_cases hcooling : cooling manager now endpoint = true
      · have hskipped := healthEntry_cooling.mp hcooling
        have hsame := healthEntry_of_cooling hcooling
        simp only [TransportManager.tryEndpoints]
        generalize manager.healthEntry endpoint.endpointId = entry at hskipped hsame ⊢
        obtain ⟨health, entered⟩ := entry
        dsimp only at hskipped hsame ⊢
        rw [if_pos hskipped, hsame, ih manager]
        simp [hcooling]
      · have htried := mt healthEntry_cooling.mpr hcooling
        refine iff_of_false ?_ fun hall => hcooling hall.1
        simp only [TransportManager.tryEndpoints]
        generalize manager.healthEntry endpoint.endpointId = entry at htried ⊢
        obtain ⟨health, entered⟩ := entry
        dsimp only at htried ⊢
        rw [if_neg htried]
        have hcalls := (send_contacts sender entered endpoint bytes).1
        generalize entered.send sender endpoint bytes = sent at hcalls ⊢
        obtain ⟨failure | value, after, calls⟩ := sent
        · exact fun hnone => hcalls (List.append_eq_nil_iff.mp hnone).1
        · exact hcalls

theorem mem_sortedEndpoints {manager : TransportManager σ} {endpoint : RelayEndpoint} :
    endpoint ∈ manager.sortedEndpoints ↔ endpoint ∈ manager.directory.endpoints :=
  List.mem_insertionSort _

/-- A flush calls relays of the directory only, and keeps the directory and the
key. -/
theorem flushLoop_contacts_mem (sender : EndpointSender σ) (now : UInt64)
    (frames : List QueuedFrame) (responses : List Bytes) (manager : TransportManager σ) :
    identity (TransportManager.flushLoop sender now frames responses manager).2.1 =
        identity manager ∧
      ∀ contact ∈ contacts
          (TransportManager.flushLoop sender now frames responses manager).2.2,
        contact.endpoint ∈ manager.directory.endpoints := by
  induction frames generalizing responses manager with
  | nil => simp [TransportManager.flushLoop, contacts]
  | cons frame frames ih =>
      have hidentity := identity_tryEndpoints sender now frame.bytes
        (manager.sortedEndpoints.head?.map RelayEndpoint.endpointId)
        manager.sortedEndpoints manager
      have hmem := tryEndpoints_contacts_mem sender now frame.bytes
        (manager.sortedEndpoints.head?.map RelayEndpoint.endpointId)
        manager.sortedEndpoints manager
      simp only [mem_sortedEndpoints] at hmem
      simp only [TransportManager.flushLoop, TransportManager.deliver]
      generalize TransportManager.tryEndpoints sender now frame.bytes
        (manager.sortedEndpoints.head?.map RelayEndpoint.endpointId)
        manager.sortedEndpoints manager = tried at hidentity hmem ⊢
      obtain ⟨_ | value, after, calls⟩ := tried
      · exact ⟨hidentity, by simpa [contacts] using hmem⟩
      · dsimp only at hidentity hmem ⊢
        obtain ⟨hkept, hlater⟩ :=
          ih (responses ++ [value]) { after with outbox := after.outbox.tail }
        have hdirectory : after.directory = manager.directory :=
          congrArg Prod.fst hidentity
        refine ⟨hkept.trans hidentity, ?_⟩
        intro contact hcontact
        rw [contacts, List.flatMap_cons, List.mem_append] at hcontact
        rcases hcontact with hcall | hcall
        · exact hmem contact hcall
        · rw [← hdirectory]
          exact hlater contact hcall

/-- There is nothing to send or nobody to send it to. -/
def Idle (manager : TransportManager σ) (now : UInt64) : Prop :=
  manager.outbox = [] ∨
    ∀ endpoint ∈ manager.directory.endpoints, cooling manager now endpoint = true

theorem flush_contacts_nil (sender : EndpointSender σ) (now : UInt64)
    (manager : TransportManager σ) :
    contacts (manager.flush sender now).2.2 = [] ↔ Idle manager now := by
  unfold Idle TransportManager.flush
  cases hqueue : manager.outbox with
  | nil => simp [TransportManager.flushLoop, contacts]
  | cons frame frames =>
      have hnobody := tryEndpoints_contacts_nil sender now frame.bytes
        (manager.sortedEndpoints.head?.map RelayEndpoint.endpointId)
        manager.sortedEndpoints manager
      have hsettles := (tryEndpoints_spec sender now frame.bytes
        (manager.sortedEndpoints.head?.map RelayEndpoint.endpointId)
        manager.sortedEndpoints manager).1
      simp only [mem_sortedEndpoints] at hnobody
      simp only [reduceCtorEq, false_or]
      rw [← hnobody]
      simp only [TransportManager.flushLoop, TransportManager.deliver]
      generalize TransportManager.tryEndpoints sender now frame.bytes
        (manager.sortedEndpoints.head?.map RelayEndpoint.endpointId)
        manager.sortedEndpoints manager = tried at hsettles ⊢
      obtain ⟨_ | value, after, calls⟩ := tried
      · simp [contacts]
      · -- a response comes with the call that gave it
        obtain ⟨refused, last, hcalls, -⟩ := hsettles
        dsimp only at hcalls ⊢
        simp [contacts, hcalls]

end ResilientMessenger.Contacts
