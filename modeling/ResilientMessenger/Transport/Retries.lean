import ResilientMessenger.Transport.Flushes

/-!
# When to retry

After a flush that nobody took, all relays of the directory cool down, and the manager
tells when to flush again.  It asks the whole health table, which keeps the entries of
relays that have left the directory: such an entry never brings a contact, but if its
time comes before the times of all relays of the directory it is the answer, past or
future.
-/

namespace ResilientMessenger.Retries

open ResilientMessenger.ByteCodec
open ResilientMessenger.Directory
open ResilientMessenger.Manager
open ResilientMessenger.Contacts
open ResilientMessenger.Exchanges
open ResilientMessenger.Flushes
open ResilientMessenger.Runs
open ResilientMessenger.Outbox (Operation Session)

variable {σ : Type}

/-- `next_retry_at`: the least time in the health table that is not zero. -/
def nextRetryAt (manager : TransportManager σ) : Option UInt64 :=
  ((manager.health.rows.filter fun health => 0 < health.retryAfter).map
    Health.retryAfter).min?

/-- When the endpoint may be tried again. -/
def retryOf (manager : TransportManager σ) (endpoint : RelayEndpoint) : UInt64 :=
  (manager.healthEntry endpoint.endpointId).1.retryAfter

/-- The answer is the least time of the relays of the directory, later than `now`; a
flush at that time contacts somebody, and a flush before it nobody. -/
def Planned (sender : EndpointSender σ) (now : UInt64) (manager : TransportManager σ) :
    Prop :=
  ∃ time, nextRetryAt manager = some time ∧ now < time ∧
    (∃ endpoint ∈ manager.directory.endpoints, retryOf manager endpoint = time) ∧
    (∀ endpoint ∈ manager.directory.endpoints, time ≤ retryOf manager endpoint) ∧
    contacts (manager.flush sender time).2.2 ≠ [] ∧
    ∀ earlier, now < earlier → earlier < time →
      contacts (manager.flush sender earlier).2.2 = []

/-- No relay that has left the directory has a retry pending before all relays of the
directory. -/
def NoStaleRetry (manager : TransportManager σ) : Prop :=
  ∀ health ∈ manager.health.rows,
    health.endpointId ∉ manager.directory.endpoints.map RelayEndpoint.endpointId →
    health.retryAfter = 0 ∨
      ∃ endpoint ∈ manager.directory.endpoints,
        retryOf manager endpoint ≤ health.retryAfter

/-! ## After a flush that failed -/

section Failed

variable {sender : EndpointSender σ} {now : UInt64}

theorem cooling_iff_retryOf {manager : TransportManager σ} {time : UInt64}
    {endpoint : RelayEndpoint} :
    cooling manager time endpoint = true ↔ time < retryOf manager endpoint :=
  healthEntry_cooling

/-- A frame that nobody took leaves all its endpoints in cooldown. -/
theorem cooling_of_unanswered (hnow : now.toNat ≤ 2 ^ 64 - 512) {bytes : Bytes}
    {highestPriority : Option Id16} {endpoints : List RelayEndpoint}
    {manager after : TransportManager σ} {exchanges : List Exchange}
    (hcourse : Course sender now bytes highestPriority endpoints manager exchanges after)
    (hnone : response exchanges = none) :
    ∀ endpoint ∈ endpoints, cooling after now endpoint = true := by
  induction hcourse with
  | exhausted => simp
  | skipped hcooling hrest ih =>
      rw [List.forall_mem_cons]
      exact ⟨cooling_stays hnow hrest hcooling, ih hnone⟩
  | answered _ _ hvalue => simp [response, hvalue] at hnone
  | @failed endpoint endpoints manager after made state exchanges _ hmade hfailed hrest
      ih =>
      rw [List.forall_mem_cons]
      refine ⟨cooling_stays hnow hrest ?_, ih ?_⟩
      · have hcooling := cooling_recordFailure hmade hnow endpoint
        rw [beq_self_eq_true, Bool.true_or] at hcooling
        exact hcooling
      · simpa [response, hfailed] using hnone

theorem cooling_of_stuck (hnow : now.toNat ≤ 2 ^ 64 - 512)
    {manager after : TransportManager σ} {passages : List Passage}
    (hcourse : FlushCourse (Processed sender now) manager passages after)
    (hqueue : after.outbox ≠ []) :
    after.directory = manager.directory ∧
      ∀ endpoint ∈ manager.directory.endpoints, cooling after now endpoint = true := by
  induction hcourse with
  | drained hempty => exact absurd hempty hqueue
  | stuck _ hframe hnone =>
      refine ⟨hframe.directory, ?_⟩
      intro endpoint hendpoint
      exact cooling_of_unanswered hnow hframe hnone endpoint
        (mem_sortedEndpoints.mpr hendpoint)
  | delivered _ hframe _ _ ih =>
      have hrest := ih hqueue
      rw [← hframe.directory]
      exact hrest

/-- What a flush that returned an error leaves behind. -/
theorem flush_failed (hnow : now.toNat ≤ 2 ^ 64 - 512) {manager : TransportManager σ}
    (herror : (manager.flush sender now).1 = .error .unavailable) :
    (manager.flush sender now).2.1.outbox ≠ [] ∧
      (manager.flush sender now).2.1.directory = manager.directory ∧
      ∀ endpoint ∈ (manager.flush sender now).2.1.directory.endpoints,
        now < retryOf (manager.flush sender now).2.1 endpoint := by
  obtain ⟨responses, remaining, _, hremaining, hresult⟩ :=
    Outbox.flush_spec sender now manager
  obtain ⟨passages, hcourse, _⟩ := flush_course sender now manager
  have hqueue : (manager.flush sender now).2.1.outbox ≠ [] := by
    intro hdrained
    rw [hremaining] at hdrained
    rw [hresult, if_pos hdrained] at herror
    cases herror
  obtain ⟨hdirectory, hcooling⟩ := cooling_of_stuck hnow hcourse hqueue
  refine ⟨hqueue, hdirectory, ?_⟩
  intro endpoint hendpoint
  rw [hdirectory] at hendpoint
  exact cooling_iff_retryOf.mp (hcooling endpoint hendpoint)

end Failed

/-! ## The answer -/

theorem nextRetryAt_eq_some {manager : TransportManager σ} {time : UInt64} :
    nextRetryAt manager = some time ↔
      (∃ health ∈ manager.health.rows, 0 < health.retryAfter ∧
        health.retryAfter = time) ∧
      ∀ health ∈ manager.health.rows, 0 < health.retryAfter →
        time ≤ health.retryAfter := by
  unfold nextRetryAt
  rw [List.min?_eq_some_iff, List.mem_map, List.forall_mem_map]
  simp only [List.mem_filter, decide_eq_true_eq, and_imp, and_assoc]

/-- The time of an endpoint stands in its entry, unless it is zero. -/
theorem row_of_retryOf {manager : TransportManager σ} {endpoint : RelayEndpoint}
    (hpositive : 0 < retryOf manager endpoint) :
    ∃ health ∈ manager.health.rows, health.endpointId = endpoint.endpointId ∧
      health.retryAfter = retryOf manager endpoint := by
  unfold retryOf at hpositive ⊢
  rw [healthEntry_fst] at hpositive ⊢
  cases hlookup : manager.health.lookup endpoint.endpointId with
  | none =>
      rw [hlookup] at hpositive
      exact absurd hpositive (lt_irrefl 0)
  | some health =>
      exact ⟨health, Table.mem_of_lookup hlookup, Table.key_of_lookup hlookup, rfl⟩

theorem retryOf_of_row {manager : TransportManager σ} {health : Health}
    {endpoint : RelayEndpoint} (hrow : health ∈ manager.health.rows)
    (hid : health.endpointId = endpoint.endpointId) :
    retryOf manager endpoint = health.retryAfter := by
  have hlookup := Table.mem_rows_iff.mp hrow
  rw [retryOf, healthEntry_fst, ← hid, hlookup]
  rfl

section Planned

variable {sender : EndpointSender σ} {now : UInt64} {manager : TransportManager σ}

theorem noStaleRetry_of_planned (hplanned : Planned sender now manager) :
    NoStaleRetry manager := by
  obtain ⟨time, htime, _, ⟨endpoint, hendpoint, hretry⟩, _⟩ := hplanned
  have hleast := (nextRetryAt_eq_some.mp htime).2
  intro health hhealth _
  by_cases hzero : health.retryAfter = 0
  · exact .inl hzero
  · refine .inr ⟨endpoint, hendpoint, ?_⟩
    rw [hretry]
    exact hleast health hhealth (UInt64.pos_iff_ne_zero.mpr hzero)

/-- Without stale entries the least time of the table is that of a relay of the
directory. -/
theorem nextRetryAt_of_noStaleRetry (hdirectory : manager.directory.endpoints ≠ [])
    (hcooling : ∀ endpoint ∈ manager.directory.endpoints, now < retryOf manager endpoint)
    (hstale : NoStaleRetry manager) :
    ∃ time, nextRetryAt manager = some time ∧
      (∃ endpoint ∈ manager.directory.endpoints, retryOf manager endpoint = time) ∧
      ∀ endpoint ∈ manager.directory.endpoints, time ≤ retryOf manager endpoint := by
  have hpositive {endpoint : RelayEndpoint}
      (hendpoint : endpoint ∈ manager.directory.endpoints) :
      0 < retryOf manager endpoint :=
    UInt64.lt_of_le_of_lt UInt64.zero_le (hcooling endpoint hendpoint)
  obtain ⟨first, hfirst⟩ := List.exists_mem_of_ne_nil _ hdirectory
  obtain ⟨row, hrow, _, hrowRetry⟩ := row_of_retryOf (hpositive hfirst)
  have hmem : row.retryAfter ∈ (manager.health.rows.filter
      fun health => 0 < health.retryAfter).map Health.retryAfter := by
    apply List.mem_map_of_mem
    rw [List.mem_filter, hrowRetry]
    exact ⟨hrow, decide_eq_true (hpositive hfirst)⟩
  obtain ⟨time, htime⟩ := Option.isSome_iff_exists.mp (List.isSome_min?_of_mem hmem)
  obtain ⟨⟨health, hhealth, hnonzero, hattained⟩, hleast⟩ := nextRetryAt_eq_some.mp htime
  have hbelow (endpoint : RelayEndpoint)
      (hendpoint : endpoint ∈ manager.directory.endpoints) :
      time ≤ retryOf manager endpoint := by
    obtain ⟨own, hown, _, hretry⟩ := row_of_retryOf (hpositive hendpoint)
    rw [← hretry]
    apply hleast own hown
    rw [hretry]
    exact hpositive hendpoint
  refine ⟨time, htime, ?_, hbelow⟩
  by_cases hlisted : health.endpointId ∈
      manager.directory.endpoints.map RelayEndpoint.endpointId
  · obtain ⟨endpoint, hendpoint, hid⟩ := List.mem_map.mp hlisted
    exact ⟨endpoint, hendpoint, (retryOf_of_row hhealth hid.symm).trans hattained⟩
  · rcases hstale health hhealth hlisted with hzero | ⟨endpoint, hendpoint, hle⟩
    · exact absurd hzero (UInt64.pos_iff_ne_zero.mp hnonzero)
    · rw [hattained] at hle
      exact ⟨endpoint, hendpoint, UInt64.le_antisymm hle (hbelow endpoint hendpoint)⟩

/-- In a state in which all relays of the directory cool down and something waits, the
answer is right exactly when there is no stale retry. -/
theorem planned_iff (hqueue : manager.outbox ≠ [])
    (hdirectory : manager.directory.endpoints ≠ [])
    (hcooling : ∀ endpoint ∈ manager.directory.endpoints,
      now < retryOf manager endpoint) :
    Planned sender now manager ↔ NoStaleRetry manager := by
  refine ⟨noStaleRetry_of_planned, ?_⟩
  intro hstale
  obtain ⟨time, htime, ⟨endpoint, hendpoint, hretry⟩, hbelow⟩ :=
    nextRetryAt_of_noStaleRetry hdirectory hcooling hstale
  refine ⟨time, htime, ?_, ⟨endpoint, hendpoint, hretry⟩, hbelow, ?_, ?_⟩
  · rw [← hretry]
    exact hcooling endpoint hendpoint
  · intro hnobody
    rcases (flush_contacts_nil sender time manager).mp hnobody with hempty | hall
    · exact hqueue hempty
    · have hlater := cooling_iff_retryOf.mp (hall endpoint hendpoint)
      rw [hretry] at hlater
      exact UInt64.lt_irrefl time hlater
  · intro earlier _ hearlier
    apply (flush_contacts_nil sender earlier manager).mpr
    right
    intro other hother
    exact cooling_iff_retryOf.mpr (UInt64.lt_of_lt_of_le hearlier (hbelow other hother))

end Planned

/-- After every run: when a flush has just found nobody to take its frame, the next
retry is told right exactly when no relay outside the directory has a retry pending
before all relays of the directory. -/
theorem retry_planned_iff (scheme : SignatureScheme) (sender : EndpointSender σ)
    (manager : TransportManager σ) (operations : List Operation) (now : UInt64)
    (hnow : now.toNat ≤ 2 ^ 64 - 512)
    (hdirectory : (run (Session.step scheme sender) (Session.start manager)
      operations).manager.directory.endpoints ≠ [])
    (herror : ((run (Session.step scheme sender) (Session.start manager)
      operations).manager.flush sender now).1 = .error .unavailable) :
    Planned sender now (run (Session.step scheme sender) (Session.start manager)
        (operations ++ [.flush now])).manager ↔
      NoStaleRetry (run (Session.step scheme sender) (Session.start manager)
        (operations ++ [.flush now])).manager := by
  have hlast : (run (Session.step scheme sender) (Session.start manager)
      (operations ++ [.flush now])).manager = ((run (Session.step scheme sender)
        (Session.start manager) operations).manager.flush sender now).2.1 := by
    rw [run_append]
    rfl
  obtain ⟨hqueue, hsame, hcooling⟩ := flush_failed hnow herror
  rw [hlast]
  apply planned_iff hqueue _ hcooling
  rw [hsame]
  exact hdirectory

/-- A directory with one other relay, of a later version. -/
def nextDirectory : SignedRelayDirectory where
  version := 3
  issuedAt := 1500
  expiresAt := 5100
  endpoints := [⟨FixedBytes.fill 16 3, "wss://c/ws", "https://c/sync", 1⟩]
  signature := SignatureScheme.neutralSignature

/-- Both relays refuse, and the directory is replaced. -/
def replacedAfterFailure : List Operation :=
  [.enqueue (Outbox.sampleFrame 8), .flush 1000, .updateDirectory nextDirectory 1500]

/-- As long as the directory is the first one the answer is right. -/
theorem first_failure_planned :
    Planned Outbox.scripted 1000 (run (Session.step SignatureScheme.neutral
      Outbox.scripted) (Session.start (Outbox.sampleManager []))
      ([.enqueue (Outbox.sampleFrame 8)] ++ [.flush 1000])).manager :=
  (retry_planned_iff SignatureScheme.neutral Outbox.scripted (Outbox.sampleManager [])
    [.enqueue (Outbox.sampleFrame 8)] 1000 (by decide) (by decide +kernel)
    (by decide +kernel)).mpr (by unfold NoStaleRetry; decide +kernel)

/-- The relays of the first directory failed at 1000 and are gone; the relay of the
second fails at 2000, and the next retry is told for 1002. -/
theorem stale_retry_told :
    TransportManager.new SignatureScheme.neutral [] Outbox.sampleDirectory
        SignatureScheme.neutralKey 1000 = .ok (Outbox.sampleManager []) ∧
      (run (Session.step SignatureScheme.neutral Outbox.scripted)
        (Session.start (Outbox.sampleManager [])) replacedAfterFailure).manager.directory =
          nextDirectory ∧
      ((run (Session.step SignatureScheme.neutral Outbox.scripted)
        (Session.start (Outbox.sampleManager [])) replacedAfterFailure).manager.flush
          Outbox.scripted 2000).1 = .error .unavailable ∧
      nextRetryAt (run (Session.step SignatureScheme.neutral Outbox.scripted)
        (Session.start (Outbox.sampleManager []))
        (replacedAfterFailure ++ [.flush 2000])).manager = some 1002 ∧
      ¬Planned Outbox.scripted 2000 (run (Session.step SignatureScheme.neutral
        Outbox.scripted) (Session.start (Outbox.sampleManager []))
        (replacedAfterFailure ++ [.flush 2000])).manager := by
  have htold : nextRetryAt (run (Session.step SignatureScheme.neutral Outbox.scripted)
      (Session.start (Outbox.sampleManager []))
      (replacedAfterFailure ++ [.flush 2000])).manager = some 1002 := by decide +kernel
  refine ⟨rfl, by decide +kernel, by decide +kernel, htold, ?_⟩
  rintro ⟨time, htime, hlater, _⟩
  rw [htold] at htime
  cases htime
  exact absurd hlater (by decide)

end ResilientMessenger.Retries
