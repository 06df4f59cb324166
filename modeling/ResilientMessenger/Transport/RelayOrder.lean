import ResilientMessenger.Transport.Contacts
import ResilientMessenger.Transport.DirectoryCodec

/-!
# The order in which relays are tried

The signature covers the relays in signed order, by priority and then by id.  A
flush sorts the list as it was received, by priority alone, so relays of equal
priority are tried in the order of the received list, which nobody has signed.
Two directories with the same signed bytes lead to the same contacts exactly when
they list the relays of each priority in the same order.
-/

namespace ResilientMessenger.RelayOrder

open ResilientMessenger.ByteCodec
open ResilientMessenger.Directory
open ResilientMessenger.Manager
open ResilientMessenger.Contacts
open ResilientMessenger.StableSort

variable {σ : Type}

/-- The relays a flush contacts, in order. -/
def contacted (sender : EndpointSender σ) (now : UInt64) (manager : TransportManager σ) :
    List RelayEndpoint :=
  (contacts (manager.flush sender now).2.2).map Contact.endpoint

/-- Managers that differ in these directories only contact the same relays in the
same order, whatever their state, the network and the time. -/
def SameContacts (first second : SignedRelayDirectory) : Prop :=
  ∀ (σ : Type) (sender : EndpointSender σ) (now : UInt64) (manager : TransportManager σ),
    contacted sender now (withDirectory manager first) =
      contacted sender now (withDirectory manager second)

/-- Both lists have the relays of each priority in the same order. -/
def SameTies (first second : SignedRelayDirectory) : Prop :=
  ∀ priority : UInt16,
    first.endpoints.filter (fun endpoint => endpoint.priority = priority) =
      second.endpoints.filter fun endpoint => endpoint.priority = priority

/-! ## Keys -/

def priorityKey (endpoint : RelayEndpoint) : ℕ := endpoint.priority.toNat

/-- The key of a flush: whether the relay is another than the preferred one, then
its priority. -/
def triedKey (preferred : Option Id16) (endpoint : RelayEndpoint) : Bool ×ₗ ℕ :=
  toLex (decide (preferred ≠ some endpoint.endpointId), priorityKey endpoint)

theorem triedBefore_iff (preferred : Option Id16) (left right : RelayEndpoint) :
    TransportManager.triedBefore preferred left right ↔
      triedKey preferred left ≤ triedKey preferred right := by
  unfold TransportManager.triedBefore triedKey priorityKey
  rw [Prod.Lex.toLex_le_toLex, UInt16.le_iff_toNat_le]
  have hfirst (endpoint : RelayEndpoint) (hsame : preferred = some endpoint.endpointId) :
      decide (preferred ≠ some endpoint.endpointId) = false :=
    decide_eq_false (not_not.mpr hsame)
  by_cases hleft : preferred = some left.endpointId
  · rw [if_pos hleft, hfirst left hleft]
    by_cases hright : preferred = some right.endpointId
    · rw [hfirst right hright]
      simp [hright]
    · rw [decide_eq_true hright]
      simp [hright]
  · rw [if_neg hleft, decide_eq_true hleft]
    by_cases hright : preferred = some right.endpointId
    · rw [hfirst right hright]
      simp [hright]
    · rw [decide_eq_true hright]
      simp [hright]

theorem sortedEndpoints_eq (manager : TransportManager σ) :
    manager.sortedEndpoints =
      sortBy (triedKey manager.preferredEndpoint) manager.directory.endpoints :=
  insertionSort_eq_sortBy _ (triedBefore_iff manager.preferredEndpoint) _

theorem sameTies_iff {first second : SignedRelayDirectory} :
    SameTies first second ↔
      sortBy priorityKey first.endpoints = sortBy priorityKey second.endpoints := by
  have hclass (priority : UInt16) (endpoints : List RelayEndpoint) :
      endpoints.filter (fun endpoint => endpoint.priority = priority) =
        ofKey priorityKey priority.toNat endpoints := by
    apply List.filter_congr
    intro endpoint _
    rw [priorityKey, decide_eq_decide, UInt16.toNat_inj]
  have hempty (k : ℕ) (hk : 2 ^ 16 ≤ k) (endpoints : List RelayEndpoint) :
      ofKey priorityKey k endpoints = [] := by
    apply List.filter_eq_nil_iff.mpr
    intro endpoint _ hendpoint
    have hkey : endpoint.priority.toNat = k := of_decide_eq_true hendpoint
    have hbound := endpoint.priority.toNat_lt
    omega
  rw [sortBy_eq_iff, SameTies]
  simp only [hclass]
  constructor
  · intro hties k
    by_cases hk : k < 2 ^ 16
    · have hword : (UInt16.ofNat k).toNat = k := UInt16.toNat_ofNat_of_lt' hk
      rw [← hword]
      exact hties (UInt16.ofNat k)
    · rw [hempty k (Nat.le_of_not_lt hk), hempty k (Nat.le_of_not_lt hk)]
  · intro hclasses priority
    exact hclasses priority.toNat

/-- Lists that agree in their ties are tried in the same order. -/
theorem sorted_eq_of_sameTies {first second : SignedRelayDirectory}
    (hties : SameTies first second) (preferred : Option Id16) :
    sortBy (triedKey preferred) first.endpoints =
      sortBy (triedKey preferred) second.endpoints :=
  sortBy_congr (fun key : Bool ×ₗ ℕ => (ofLex key).2) (fun _ => rfl)
    (sameTies_iff.mp hties)

/-- The order without a preferred relay shows the ties. -/
theorem sameTies_of_sorted_eq {first second : SignedRelayDirectory}
    (hsorted : sortBy (triedKey none) first.endpoints =
      sortBy (triedKey none) second.endpoints) : SameTies first second := by
  rw [sameTies_iff]
  exact sortBy_congr (fun k : ℕ => toLex (true, k)) (fun _ => rfl) hsorted

/-! ## Equal ties -/

/-- With equal orders a flush takes the same course under both directories. -/
theorem flushLoop_withDirectory {first second : SignedRelayDirectory}
    (hties : SameTies first second) (sender : EndpointSender σ) (now : UInt64)
    (frames : List QueuedFrame) (responses : List Bytes) (manager : TransportManager σ) :
    (TransportManager.flushLoop sender now frames responses
        (withDirectory manager first)).2.2 =
      (TransportManager.flushLoop sender now frames responses
        (withDirectory manager second)).2.2 := by
  induction frames generalizing responses manager with
  | nil => rfl
  | cons frame frames ih =>
      have horder : (withDirectory manager first).sortedEndpoints =
          (withDirectory manager second).sortedEndpoints := by
        rw [sortedEndpoints_eq, sortedEndpoints_eq]
        exact sorted_eq_of_sameTies hties manager.preferredEndpoint
      simp only [TransportManager.flushLoop, TransportManager.deliver, horder,
        tryEndpoints_withDirectory]
      generalize TransportManager.tryEndpoints sender now frame.bytes
        ((withDirectory manager second).sortedEndpoints.head?.map
          RelayEndpoint.endpointId)
        (withDirectory manager second).sortedEndpoints manager = tried
      obtain ⟨_ | value, after, calls⟩ := tried
      · rfl
      · have hrest := ih (responses ++ [value]) { after with outbox := after.outbox.tail }
        exact congrArg (fun rounds => ⟨frame.bytes, calls, some value⟩ :: rounds) hrest

theorem sameContacts_of_sameTies {first second : SignedRelayDirectory}
    (hties : SameTies first second) : SameContacts first second := by
  intro σ sender now manager
  unfold contacted TransportManager.flush
  have hrounds := flushLoop_withDirectory hties sender now manager.outbox [] manager
  exact congrArg (fun rounds => (contacts rounds).map Contact.endpoint) hrounds

/-! ## Different ties show -/

/-- A network in which every call fails. -/
def refusing : EndpointSender Unit where
  sendWebsocket _ _ _ := (.error .unavailable, ())
  sendHttps _ _ _ := (.error .unavailable, ())

/-- No cooldown reaches beyond the last second a clock can show. -/
def lastSecond : UInt64 := UInt64.ofNat (2 ^ 64 - 1)

theorem not_lastSecond_lt (time : UInt64) : ¬lastSecond < time := by
  have hbound := time.toNat_lt
  have hlast : lastSecond.toNat = 2 ^ 64 - 1 := by decide
  rw [UInt64.lt_iff_toNat_lt, hlast]
  omega

/-- Everybody is asked twice, in order. -/
theorem tryEndpoints_refusing (bytes : Bytes) (highestPriority : Option Id16)
    (endpoints : List RelayEndpoint) (manager : TransportManager Unit) :
    (TransportManager.tryEndpoints refusing lastSecond bytes highestPriority endpoints
        manager).1 = none ∧
      (TransportManager.tryEndpoints refusing lastSecond bytes highestPriority endpoints
        manager).2.2.map Contact.endpoint =
          endpoints.flatMap fun endpoint => [endpoint, endpoint] := by
  induction endpoints generalizing manager with
  | nil => exact ⟨rfl, rfl⟩
  | cons endpoint endpoints ih =>
      simp only [TransportManager.tryEndpoints]
      generalize manager.healthEntry endpoint.endpointId = entry
      obtain ⟨health, entered⟩ := entry
      dsimp only
      rw [if_neg (not_lastSecond_lt health.retryAfter)]
      have hsend : ∃ after, entered.send refusing endpoint bytes =
          (.error .unavailable, after,
            [⟨endpoint, .websocket, bytes, .error .unavailable⟩,
              ⟨endpoint, .https, bytes, .error .unavailable⟩]) := ⟨_, rfl⟩
      obtain ⟨after, hsend⟩ := hsend
      rw [hsend]
      obtain ⟨hnone, hcalls⟩ := ih (after.recordFailure lastSecond endpoint health)
      refine ⟨hnone, ?_⟩
      rw [List.map_append, hcalls]
      rfl

/-- A manager with one frame to send and nothing learnt about its relays. -/
def probe : TransportManager Unit where
  sender := ()
  directory := ⟨0, 0, 0, [], FixedBytes.fill 64 0⟩
  verificationKey := FixedBytes.fill 32 0
  outbox := [⟨FixedBytes.fill 16 0, []⟩]
  health := Table.empty
  counters := ⟨0, 0, 0, 0, 0, 0⟩
  preferredEndpoint := none

theorem contacted_probe (directory : SignedRelayDirectory) :
    contacted refusing lastSecond (withDirectory probe directory) =
      (sortBy (triedKey none) directory.endpoints).flatMap
        fun endpoint => [endpoint, endpoint] := by
  have horder : (withDirectory probe directory).sortedEndpoints =
      sortBy (triedKey none) directory.endpoints := sortedEndpoints_eq _
  obtain ⟨hnone, hcalls⟩ := tryEndpoints_refusing []
    ((sortBy (triedKey none) directory.endpoints).head?.map RelayEndpoint.endpointId)
    (sortBy (triedKey none) directory.endpoints) (withDirectory probe directory)
  unfold contacted TransportManager.flush
  have houtbox : (withDirectory probe directory).outbox =
      [⟨FixedBytes.fill 16 0, []⟩] := rfl
  rw [houtbox]
  simp only [TransportManager.flushLoop, TransportManager.deliver, horder]
  rw [← hcalls]
  generalize TransportManager.tryEndpoints refusing lastSecond []
    ((sortBy (triedKey none) directory.endpoints).head?.map RelayEndpoint.endpointId)
    (sortBy (triedKey none) directory.endpoints) (withDirectory probe directory) = tried
    at hnone ⊢
  obtain ⟨delivered, after, calls⟩ := tried
  cases hnone
  simp [contacts]

theorem flatMap_twice_injective :
    Function.Injective fun endpoints : List RelayEndpoint =>
      endpoints.flatMap fun endpoint => [endpoint, endpoint] := by
  intro left
  induction left with
  | nil =>
      intro right hsame
      cases right with
      | nil => rfl
      | cons => simp at hsame
  | cons endpoint left ih =>
      intro right hsame
      cases right with
      | nil => simp at hsame
      | cons other right =>
          simp only [List.flatMap_cons, List.cons_append, List.nil_append,
            List.cons.injEq] at hsame
          rw [hsame.1, ih hsame.2.2]

theorem sameTies_of_sameContacts {first second : SignedRelayDirectory}
    (hcontacts : SameContacts first second) : SameTies first second := by
  have hprobe := hcontacts Unit refusing lastSecond probe
  rw [contacted_probe, contacted_probe] at hprobe
  exact sameTies_of_sorted_eq (flatMap_twice_injective hprobe)

/-! ## Equal signed bytes -/

/-- Directories with the same signed bytes are the same up to the order of their
endpoints and the signature. -/
theorem inSignedOrder_eq_of_signingBytes {first second : SignedRelayDirectory}
    {message : Bytes} (hfirst : first.signingBytes = .ok message)
    (hsecond : second.signingBytes = .ok message) :
    DirectoryCodec.inSignedOrder { first with signature := second.signature } =
      DirectoryCodec.inSignedOrder second := by
  have hencode (directory : SignedRelayDirectory)
      (hdirectory : directory.signingBytes = .ok message) :
      DirectoryCodec.encode { directory with signature := second.signature } =
        .ok (message ++ second.signature.toList) :=
    Transaction.bind_eq_ok.mpr ⟨message, hdirectory, rfl⟩
  have hleft := DirectoryCodec.read_encode (hencode first hfirst)
  have hright := DirectoryCodec.read_encode (hencode second hsecond)
  rw [hleft] at hright
  exact Except.ok.inj hright

/-- The endpoints of directories with the same signed bytes are the same, each as
often. -/
theorem perm_endpoints_of_signingBytes {first second : SignedRelayDirectory}
    {message : Bytes} (hfirst : first.signingBytes = .ok message)
    (hsecond : second.signingBytes = .ok message) :
    first.endpoints.Perm second.endpoints := by
  have hsame : first.endpoints.insertionSort RelayEndpoint.signedBefore =
      second.endpoints.insertionSort RelayEndpoint.signedBefore :=
    congrArg SignedRelayDirectory.endpoints
      (inSignedOrder_eq_of_signingBytes hfirst hsecond)
  have hsorted := List.perm_insertionSort RelayEndpoint.signedBefore first.endpoints
  rw [hsame] at hsorted
  exact hsorted.symm.trans (List.perm_insertionSort _ _)

/-- Of two directories with the same signed bytes the relays are the same, and a
flush contacts them in the same order exactly when both list the relays of each
priority in the same order. -/
theorem same_contacts_iff_same_ties (first second : SignedRelayDirectory)
    (message : Bytes) (hfirst : first.signingBytes = .ok message)
    (hsecond : second.signingBytes = .ok message) :
    first.endpoints.Perm second.endpoints ∧
      (SameContacts first second ↔ SameTies first second) := by
  refine ⟨perm_endpoints_of_signingBytes hfirst hsecond, ?_⟩
  exact ⟨sameTies_of_sameContacts, sameContacts_of_sameTies⟩

/-- Two relays with these priorities, listed as given or the other way round. -/
def twoRelays (firstPriority secondPriority : UInt16) (reversed : Bool) :
    SignedRelayDirectory where
  version := 2
  issuedAt := 999
  expiresAt := 4600
  endpoints :=
    let relays : List RelayEndpoint :=
      [⟨FixedBytes.fill 16 1, "wss://a/ws", "https://a/sync", firstPriority⟩,
        ⟨FixedBytes.fill 16 2, "wss://b/ws", "https://b/sync", secondPriority⟩]
    if reversed then relays.reverse else relays
  signature := SignatureScheme.neutralSignature

def signedMessage (directory : SignedRelayDirectory) : Bytes :=
  directory.signingBytes.toOption.getD []

/-- With different priorities the order of the list does not matter. -/
theorem different_priorities_same_contacts :
    SameContacts (twoRelays 1 2 false) (twoRelays 1 2 true) :=
  (same_contacts_iff_same_ties (twoRelays 1 2 false) (twoRelays 1 2 true)
    (signedMessage (twoRelays 1 2 false)) (by decide +kernel)
    (by decide +kernel)).2.mpr (sameTies_iff.mpr (by decide +kernel))

/-- With equal priorities whoever hands over the directory decides which relay is
asked first, under the same signature. -/
theorem equal_priorities_reordered :
    (twoRelays 1 1 false).signingBytes = .ok (signedMessage (twoRelays 1 1 false)) ∧
      (twoRelays 1 1 true).signingBytes = .ok (signedMessage (twoRelays 1 1 false)) ∧
      ¬SameContacts (twoRelays 1 1 false) (twoRelays 1 1 true) := by
  refine ⟨by decide +kernel, by decide +kernel, ?_⟩
  intro hcontacts
  have hreordered : contacted Outbox.scripted 1000
        (withDirectory (Outbox.sampleQueue []) (twoRelays 1 1 false)) ≠
      contacted Outbox.scripted 1000
        (withDirectory (Outbox.sampleQueue []) (twoRelays 1 1 true)) := by
    decide +kernel
  exact hreordered (hcontacts (List Bool) Outbox.scripted 1000 (Outbox.sampleQueue []))

/-! ## What a signature binds -/

/-- The signed bytes determine the version, the validity interval and the relays
with their addresses and priorities, each as often as it is listed. -/
theorem signed_bytes_bind_content (first second : SignedRelayDirectory)
    (message : Bytes) (hfirst : first.signingBytes = .ok message)
    (hsecond : second.signingBytes = .ok message) :
    first.version = second.version ∧ first.issuedAt = second.issuedAt ∧
      first.expiresAt = second.expiresAt ∧ first.endpoints.Perm second.endpoints := by
  have hsame := inSignedOrder_eq_of_signingBytes hfirst hsecond
  simp only [DirectoryCodec.inSignedOrder, SignedRelayDirectory.mk.injEq] at hsame
  obtain ⟨hversion, hissued, hexpires, -⟩ := hsame
  exact ⟨hversion, hissued, hexpires, perm_endpoints_of_signingBytes hfirst hsecond⟩

/-- The relays of a list and of the reversed list are the same under one
signature. -/
theorem reversed_relays_bound :
    (twoRelays 1 1 false).endpoints.Perm (twoRelays 1 1 true).endpoints :=
  (signed_bytes_bind_content (twoRelays 1 1 false) (twoRelays 1 1 true)
    (signedMessage (twoRelays 1 1 false)) (by decide +kernel)
    (by decide +kernel)).2.2.2

end ResilientMessenger.RelayOrder
