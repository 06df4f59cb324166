import ResilientMessenger.Transport.RelayOrder

/-!
# One frame and its relays

For one frame a flush asks relays one after the other: by WebSocket, after a failure
by HTTPS, until one of them answers.  The loop tests the health table that it also
writes.  The reference has no table to write: it fixes whom to ask in advance, the
relays out of cooldown, each id once (`eligible`), and asks them until the first
answer (`ask`).  `Course` says once what the loop does at one endpoint; that it asks
whom the reference asks and what the table is afterwards follow by induction on it.
-/

namespace ResilientMessenger.Exchanges

open ResilientMessenger.ByteCodec
open ResilientMessenger.Directory
open ResilientMessenger.Manager
open ResilientMessenger.Contacts

variable {σ : Type}

/-! ## The reference -/

/-- How one endpoint took a frame: it answered by WebSocket, or by HTTPS after the
WebSocket had failed, or both failed. -/
inductive Exchange where
  | websocket (endpoint : RelayEndpoint) (value : Bytes)
  | https (endpoint : RelayEndpoint) (failure : TransportError) (value : Bytes)
  | failed (endpoint : RelayEndpoint) (first second : TransportError)

namespace Exchange

def endpoint : Exchange → RelayEndpoint
  | websocket endpoint _ => endpoint
  | https endpoint _ _ => endpoint
  | failed endpoint _ _ => endpoint

def endpointId (exchange : Exchange) : Id16 := exchange.endpoint.endpointId

/-- The last answer of the endpoint. -/
def answer : Exchange → Except TransportError Bytes
  | websocket _ value => .ok value
  | https _ _ value => .ok value
  | failed _ _ second => .error second

def response (exchange : Exchange) : Option Bytes := exchange.answer.toOption

/-- The calls of the sender it took. -/
def calls (bytes : Bytes) : Exchange → List Contact
  | websocket endpoint value => [⟨endpoint, .websocket, bytes, .ok value⟩]
  | https endpoint failure value =>
      [⟨endpoint, .websocket, bytes, .error failure⟩, ⟨endpoint, .https, bytes, .ok value⟩]
  | failed endpoint first second =>
      [⟨endpoint, .websocket, bytes, .error first⟩,
        ⟨endpoint, .https, bytes, .error second⟩]

end Exchange

/-- WebSocket first, HTTPS if and only if that failed. -/
def exchange (sender : EndpointSender σ) (bytes : Bytes) (endpoint : RelayEndpoint)
    (state : σ) : Exchange × σ :=
  match sender.sendWebsocket state endpoint bytes with
  | (.ok value, state) => (.websocket endpoint value, state)
  | (.error first, state) =>
      match sender.sendHttps state endpoint bytes with
      | (.ok value, state) => (.https endpoint first value, state)
      | (.error second, state) => (.failed endpoint first second, state)

/-- Asks the endpoints in order, up to and including the first that answers. -/
def ask (sender : EndpointSender σ) (bytes : Bytes) :
    List RelayEndpoint → σ → List Exchange × σ
  | [], state => ([], state)
  | endpoint :: endpoints, state =>
      let (answer, state) := exchange sender bytes endpoint state
      if answer.response.isSome then ([answer], state)
      else
        let (later, state) := ask sender bytes endpoints state
        (answer :: later, state)

/-- The endpoints out of cooldown, of each id the first. -/
def eligible (manager : TransportManager σ) (now : UInt64)
    (endpoints : List RelayEndpoint) : List RelayEndpoint :=
  (endpoints.filter fun endpoint => !cooling manager now endpoint).eraseDupsBy
    fun left right => left.endpointId == right.endpointId

def calls (bytes : Bytes) (exchanges : List Exchange) : List Contact :=
  exchanges.flatMap (Exchange.calls bytes)

def response (exchanges : List Exchange) : Option Bytes :=
  exchanges.findSome? Exchange.response

/-- The ids that answered, at most one. -/
def answeredIds (exchanges : List Exchange) : List Id16 :=
  (exchanges.filter fun answer => answer.response.isSome).map Exchange.endpointId

def failedIds (exchanges : List Exchange) : List Id16 :=
  (exchanges.filter fun answer => !answer.response.isSome).map Exchange.endpointId

/-! ## The loop -/

/-- What the manager counts for an exchange, apart from its end. -/
def counted (counters : ByteCounters) (bytes : Bytes) : Exchange → ByteCounters
  | .websocket _ _ =>
      { counters with
        attempts := counters.attempts + 1
        sent := counters.sent + UInt64.ofNat bytes.length }
  | .https _ _ _ | .failed _ _ _ =>
      { counters with
        attempts := counters.attempts + 1 + 1
        sent := counters.sent + UInt64.ofNat bytes.length + UInt64.ofNat bytes.length
        websocketFailures := counters.websocketFailures + 1 }

/-- The manager after an exchange with an endpoint, before its end is recorded. -/
def exchanged (manager : TransportManager σ) (bytes : Bytes) (answer : Exchange)
    (state : σ) : TransportManager σ :=
  let entered := (manager.healthEntry answer.endpointId).2
  { entered with sender := state, counters := counted entered.counters bytes answer }

theorem endpoint_exchange (sender : EndpointSender σ) (bytes : Bytes)
    (endpoint : RelayEndpoint) (state : σ) :
    (exchange sender bytes endpoint state).1.endpoint = endpoint := by
  unfold exchange
  split
  · rfl
  · split <;> rfl

theorem send_eq (sender : EndpointSender σ) (manager : TransportManager σ)
    (endpoint : RelayEndpoint) (bytes : Bytes) {made : Exchange} {state : σ}
    (hmade : exchange sender bytes endpoint manager.sender = (made, state)) :
    (manager.healthEntry endpoint.endpointId).2.send sender endpoint bytes =
      (made.answer, exchanged manager bytes made state, made.calls bytes) := by
  have hsender : (manager.healthEntry endpoint.endpointId).2.sender = manager.sender := by
    unfold TransportManager.healthEntry
    split <;> rfl
  rcases hfirst : sender.sendWebsocket manager.sender endpoint bytes with
    ⟨failure | value, middle⟩
  · rcases hsecond : sender.sendHttps middle endpoint bytes with ⟨last | value, final⟩
    all_goals
      simp only [exchange, hfirst, hsecond, Prod.mk.injEq] at hmade
      obtain ⟨rfl, rfl⟩ := hmade
      simp only [TransportManager.send, TransportManager.attempt,
        TransportManager.countWebsocketFailure, hsender, hfirst, hsecond]
      rfl
  · simp only [exchange, hfirst, Prod.mk.injEq] at hmade
    obtain ⟨rfl, rfl⟩ := hmade
    simp only [TransportManager.send, TransportManager.attempt, hsender, hfirst]
    rfl

/-! ## The health table -/

/-- Writing an entry that has just been looked up writes no other. -/
theorem lookup_setHealth (manager : TransportManager σ) (endpointId : Id16)
    (failures : UInt32) (retryAfter : UInt64) (id : Id16) :
    ((manager.healthEntry endpointId).2.setHealth endpointId failures
        retryAfter).health.lookup id =
      if id = endpointId then some ⟨endpointId, failures, retryAfter⟩
      else manager.health.lookup id := by
  unfold TransportManager.setHealth TransportManager.healthEntry
  cases hlookup : manager.health.lookup endpointId with
  | none =>
      have hfree : manager.health.lookup (Health.endpointId ⟨endpointId, 0, 0⟩) = none :=
        hlookup
      obtain ⟨table, hinsert⟩ := Table.exists_insert? hfree
      simp only [Table.insertOrIgnore, hinsert, Option.getD_some, Table.lookup_modify,
        Table.lookup_insert? hinsert]
      split <;> simp
  | some health =>
      have hid := Table.key_of_lookup hlookup
      simp [Table.lookup_modify, hlookup, hid]

theorem healthEntry_fst (manager : TransportManager σ) (id : Id16) :
    (manager.healthEntry id).1 = (manager.health.lookup id).getD ⟨id, 0, 0⟩ := by
  unfold TransportManager.healthEntry
  cases manager.health.lookup id <;> rfl

theorem endpointId_healthEntry (manager : TransportManager σ) (id : Id16) :
    (manager.healthEntry id).1.endpointId = id := by
  rw [healthEntry_fst]
  cases hlookup : manager.health.lookup id with
  | none => rfl
  | some health => exact Table.key_of_lookup hlookup

/-- The entry of an endpoint that failed once more. -/
def penalised (now : UInt64) (health : Health) : Health :=
  ⟨health.endpointId, TransportManager.nextFailures health.failures,
    TransportManager.cooldown now health.endpointId
      (TransportManager.nextFailures health.failures)⟩

/-- The entry of an id after the exchanges for a frame: one more failure for an id
that failed, a clean entry for the one that answered, the old entry for every
other. -/
def healthAfter (manager : TransportManager σ) (now : UInt64) (exchanges : List Exchange)
    (id : Id16) : Option Health :=
  if (failedIds exchanges).contains id then
    some (penalised now (manager.healthEntry id).1)
  else if (answeredIds exchanges).contains id then some ⟨id, 0, 0⟩
  else manager.health.lookup id

theorem healthAfter_eq (manager : TransportManager σ) (now : UInt64)
    (exchanges : List Exchange) (id : Id16) :
    healthAfter manager now exchanges id =
      if id ∈ failedIds exchanges then some (penalised now (manager.healthEntry id).1)
      else if id ∈ answeredIds exchanges then some ⟨id, 0, 0⟩
      else manager.health.lookup id := by
  simp only [healthAfter, List.contains_iff_mem]

/-- The cooldown lies between once and twice its base. -/
theorem toNat_cooldown {now : UInt64} (hnow : now.toNat ≤ 2 ^ 64 - 512) (id : Id16)
    (failures : UInt32) :
    now.toNat + 2 ^ min failures.toNat 8 ≤
        (TransportManager.cooldown now id failures).toNat ∧
      (TransportManager.cooldown now id failures).toNat ≤
        now.toNat + 2 ^ (min failures.toNat 8 + 1) - 1 := by
  have hbase : 2 ^ min failures.toNat 8 ≤ 2 ^ 8 :=
    Nat.pow_le_pow_right (by omega) (min_le_right _ _)
  have hpositive : 0 < 2 ^ min failures.toNat 8 := Nat.two_pow_pos _
  have hjitter : id.head.toNat % 2 ^ min failures.toNat 8 <
      2 ^ min failures.toNat 8 := Nat.mod_lt _ hpositive
  unfold TransportManager.cooldown saturatingAdd
  dsimp only
  rw [UInt64.toNat_ofNat', UInt64.toNat_ofNat', pow_succ]
  omega

theorem now_lt_cooldown {now : UInt64} (hnow : now.toNat ≤ 2 ^ 64 - 512) (id : Id16)
    (failures : UInt32) : now < TransportManager.cooldown now id failures := by
  have hbound := (toNat_cooldown hnow id failures).1
  have hpositive : 0 < 2 ^ min failures.toNat 8 := Nat.two_pow_pos _
  rw [UInt64.lt_iff_toNat_lt]
  omega

section Loop

variable (sender : EndpointSender σ) (now : UInt64) (bytes : Bytes)
  (highestPriority : Option Id16)

/-- The way of the loop along a list of endpoints: the state it starts in, the
exchanges it makes and the state it ends in. -/
inductive Course :
    List RelayEndpoint → TransportManager σ → List Exchange → TransportManager σ →
      Prop where
  | exhausted (manager : TransportManager σ) : Course [] manager [] manager
  | skipped {endpoint : RelayEndpoint} {endpoints : List RelayEndpoint}
      {manager after : TransportManager σ} {exchanges : List Exchange}
      (hcooling : cooling manager now endpoint = true)
      (hrest : Course endpoints manager exchanges after) :
      Course (endpoint :: endpoints) manager exchanges after
  | answered {endpoint : RelayEndpoint} {endpoints : List RelayEndpoint}
      {manager : TransportManager σ} {made : Exchange} {state : σ} {value : Bytes}
      (hready : cooling manager now endpoint = false)
      (hmade : exchange sender bytes endpoint manager.sender = (made, state))
      (hvalue : made.response = some value) :
      Course (endpoint :: endpoints) manager [made]
        ((exchanged manager bytes made state).recordSuccess endpoint highestPriority
          value)
  | failed {endpoint : RelayEndpoint} {endpoints : List RelayEndpoint}
      {manager after : TransportManager σ} {made : Exchange} {state : σ}
      {exchanges : List Exchange}
      (hready : cooling manager now endpoint = false)
      (hmade : exchange sender bytes endpoint manager.sender = (made, state))
      (hnone : made.response = none)
      (hrest : Course endpoints
        ((exchanged manager bytes made state).recordFailure now endpoint
          (manager.healthEntry endpoint.endpointId).1) exchanges after) :
      Course (endpoint :: endpoints) manager (made :: exchanges) after

variable {sender now bytes highestPriority}

section Step

variable {endpoint : RelayEndpoint} {endpoints : List RelayEndpoint}
  {manager : TransportManager σ} {made : Exchange} {state : σ}

theorem tryEndpoints_of_cooling (hcooling : cooling manager now endpoint = true) :
    TransportManager.tryEndpoints sender now bytes highestPriority
        (endpoint :: endpoints) manager =
      TransportManager.tryEndpoints sender now bytes highestPriority endpoints
        manager := by
  simp only [TransportManager.tryEndpoints, healthEntry_of_cooling hcooling,
    if_pos (healthEntry_cooling.mp hcooling)]

theorem tryEndpoints_of_answer {value : Bytes}
    (hready : cooling manager now endpoint = false)
    (hmade : exchange sender bytes endpoint manager.sender = (made, state))
    (hvalue : made.response = some value) :
    TransportManager.tryEndpoints sender now bytes highestPriority
        (endpoint :: endpoints) manager =
      (some value, (exchanged manager bytes made state).recordSuccess endpoint
        highestPriority value, made.calls bytes) := by
  have htried := mt healthEntry_cooling.mpr (Bool.eq_false_iff.mp hready)
  simp only [TransportManager.tryEndpoints, if_neg htried,
    send_eq sender manager endpoint bytes hmade]
  cases hanswer : made.answer with
  | ok other =>
      rw [Exchange.response, hanswer] at hvalue
      cases hvalue
      rfl
  | error failure =>
      rw [Exchange.response, hanswer] at hvalue
      cases hvalue

theorem tryEndpoints_of_failure (hready : cooling manager now endpoint = false)
    (hmade : exchange sender bytes endpoint manager.sender = (made, state))
    (hnone : made.response = none) {delivered : Option Bytes}
    {after : TransportManager σ} {later : List Contact}
    (hlater : TransportManager.tryEndpoints sender now bytes highestPriority endpoints
      ((exchanged manager bytes made state).recordFailure now endpoint
        (manager.healthEntry endpoint.endpointId).1) = (delivered, after, later)) :
    TransportManager.tryEndpoints sender now bytes highestPriority
        (endpoint :: endpoints) manager =
      (delivered, after, made.calls bytes ++ later) := by
  have htried := mt healthEntry_cooling.mpr (Bool.eq_false_iff.mp hready)
  simp only [TransportManager.tryEndpoints, if_neg htried,
    send_eq sender manager endpoint bytes hmade]
  cases hanswer : made.answer with
  | ok other =>
      rw [Exchange.response, hanswer] at hnone
      cases hnone
  | error failure => simp only [hlater]

end Step

/-- The loop takes such a way. -/
theorem exists_course (endpoints : List RelayEndpoint) (manager : TransportManager σ) :
    ∃ exchanges after,
      Course sender now bytes highestPriority endpoints manager exchanges after := by
  induction endpoints generalizing manager with
  | nil => exact ⟨[], manager, .exhausted manager⟩
  | cons endpoint endpoints ih =>
      cases hcooling : cooling manager now endpoint with
      | true =>
          obtain ⟨exchanges, after, hcourse⟩ := ih manager
          exact ⟨exchanges, after, .skipped hcooling hcourse⟩
      | false =>
          rcases hmade : exchange sender bytes endpoint manager.sender with ⟨made, state⟩
          cases hresponse : made.response with
          | some value => exact ⟨[made], _, .answered hcooling hmade hresponse⟩
          | none =>
              obtain ⟨exchanges, after, hcourse⟩ := ih
                ((exchanged manager bytes made state).recordFailure now endpoint
                  (manager.healthEntry endpoint.endpointId).1)
              exact ⟨made :: exchanges, after, .failed hcooling hmade hresponse hcourse⟩

theorem Course.loop {endpoints : List RelayEndpoint} {manager after : TransportManager σ}
    {exchanges : List Exchange}
    (hcourse : Course sender now bytes highestPriority endpoints manager exchanges after) :
    TransportManager.tryEndpoints sender now bytes highestPriority endpoints manager =
      (response exchanges, after, calls bytes exchanges) := by
  induction hcourse with
  | exhausted => rfl
  | skipped hcooling _ ih => rw [tryEndpoints_of_cooling hcooling, ih]
  | answered hready hmade hvalue =>
      rw [tryEndpoints_of_answer hready hmade hvalue]
      simp [response, calls, hvalue]
  | failed hready hmade hnone _ ih =>
      rw [tryEndpoints_of_failure hready hmade hnone ih]
      simp [response, calls, hnone]

/-- The loop over two lists is the loop over the first, and over the second as long
as nobody has answered. -/
theorem tryEndpoints_append (before rest : List RelayEndpoint)
    (manager : TransportManager σ) {delivered : Option Bytes}
    {reached : TransportManager σ} {sofar : List Contact}
    (hbefore : TransportManager.tryEndpoints sender now bytes highestPriority before
      manager = (delivered, reached, sofar)) :
    TransportManager.tryEndpoints sender now bytes highestPriority (before ++ rest)
        manager =
      if delivered.isSome then (delivered, reached, sofar)
      else
        ((TransportManager.tryEndpoints sender now bytes highestPriority rest reached).1,
          (TransportManager.tryEndpoints sender now bytes highestPriority rest
            reached).2.1,
          sofar ++ (TransportManager.tryEndpoints sender now bytes highestPriority rest
            reached).2.2) := by
  induction before generalizing manager delivered reached sofar with
  | nil =>
      cases hbefore
      rfl
  | cons endpoint before ih =>
      rw [List.cons_append]
      cases hcooling : cooling manager now endpoint with
      | true =>
          rw [tryEndpoints_of_cooling hcooling] at hbefore ⊢
          exact ih manager hbefore
      | false =>
          rcases hmade : exchange sender bytes endpoint manager.sender with ⟨made, state⟩
          cases hresponse : made.response with
          | some value =>
              rw [tryEndpoints_of_answer hcooling hmade hresponse] at hbefore ⊢
              cases hbefore
              rfl
          | none =>
              rcases hlater : TransportManager.tryEndpoints sender now bytes
                highestPriority before ((exchanged manager bytes made state).recordFailure
                  now endpoint (manager.healthEntry endpoint.endpointId).1) with
                ⟨given, state, later⟩
              rw [tryEndpoints_of_failure hcooling hmade hresponse hlater] at hbefore
              cases hbefore
              have hwhole := ih _ hlater
              cases delivered with
              | none =>
                  simp only [Option.isSome_none, Bool.false_eq_true, if_false,
                    List.append_assoc] at hwhole ⊢
                  exact tryEndpoints_of_failure hcooling hmade hresponse hwhole
              | some value =>
                  simp only [Option.isSome_some, if_true] at hwhole ⊢
                  exact tryEndpoints_of_failure hcooling hmade hresponse hwhole

/-- At one endpoint the loop makes no call or those of one exchange. -/
theorem tryEndpoints_singleton (endpoint : RelayEndpoint) (manager : TransportManager σ) :
    (TransportManager.tryEndpoints sender now bytes highestPriority [endpoint]
        manager).2.2 =
      if cooling manager now endpoint then []
      else (exchange sender bytes endpoint manager.sender).1.calls bytes := by
  cases hcooling : cooling manager now endpoint with
  | true =>
      rw [tryEndpoints_of_cooling hcooling]
      rfl
  | false =>
      rcases hmade : exchange sender bytes endpoint manager.sender with ⟨made, state⟩
      cases hresponse : made.response with
      | some value =>
          rw [tryEndpoints_of_answer hcooling hmade hresponse]
          rfl
      | none =>
          rw [tryEndpoints_of_failure hcooling hmade hresponse rfl]
          exact List.append_nil _

variable {endpoints : List RelayEndpoint} {manager after : TransportManager σ}
  {exchanges : List Exchange}

theorem endpoint_of_exchange {endpoint : RelayEndpoint} {made : Exchange}
    {before state : σ} (hmade : exchange sender bytes endpoint before = (made, state)) :
    made.endpoint = endpoint := by
  have hendpoint := endpoint_exchange sender bytes endpoint before
  rw [hmade] at hendpoint
  exact hendpoint

section Recorded

variable {endpoint : RelayEndpoint} {made : Exchange} {state : σ}
  (hmade : exchange sender bytes endpoint manager.sender = (made, state))

include hmade

theorem lookup_recordSuccess (value : Bytes) (id : Id16) :
    ((exchanged manager bytes made state).recordSuccess endpoint highestPriority
        value).health.lookup id =
      if id = endpoint.endpointId then some ⟨id, 0, 0⟩ else manager.health.lookup id := by
  obtain rfl := endpoint_of_exchange hmade
  have hentry := lookup_setHealth manager made.endpointId 0 0 id
  by_cases hid : id = made.endpoint.endpointId
  · subst hid
    exact hentry
  · rw [if_neg hid]
    exact hentry.trans (if_neg hid)

theorem lookup_recordFailure (now : UInt64) (id : Id16) :
    ((exchanged manager bytes made state).recordFailure now endpoint
        (manager.healthEntry endpoint.endpointId).1).health.lookup id =
      if id = endpoint.endpointId then some (penalised now (manager.healthEntry id).1)
      else manager.health.lookup id := by
  obtain rfl := endpoint_of_exchange hmade
  have hentry := lookup_setHealth manager made.endpointId
    (TransportManager.nextFailures (manager.healthEntry made.endpointId).1.failures)
    (TransportManager.cooldown now made.endpointId (TransportManager.nextFailures
      (manager.healthEntry made.endpointId).1.failures)) id
  by_cases hid : id = made.endpoint.endpointId
  · subst hid
    rw [if_pos rfl, penalised, endpointId_healthEntry]
    exact hentry.trans (if_pos rfl)
  · rw [if_neg hid]
    exact hentry.trans (if_neg hid)

/-- After a failure the endpoint cools down, and all others are as before. -/
theorem cooling_recordFailure (hnow : now.toNat ≤ 2 ^ 64 - 512) (other : RelayEndpoint) :
    cooling ((exchanged manager bytes made state).recordFailure now endpoint
        (manager.healthEntry endpoint.endpointId).1) now other =
      (other.endpointId == endpoint.endpointId || cooling manager now other) := by
  unfold cooling
  rw [lookup_recordFailure hmade]
  by_cases hid : other.endpointId = endpoint.endpointId
  · simp [hid, penalised, now_lt_cooldown hnow]
  · simp [hid]

/-- An endpoint that failed leaves the eligible ones. -/
theorem eligible_recordFailure (hnow : now.toNat ≤ 2 ^ 64 - 512)
    (hready : cooling manager now endpoint = false) (endpoints : List RelayEndpoint) :
    eligible manager now (endpoint :: endpoints) =
      endpoint :: eligible ((exchanged manager bytes made state).recordFailure now endpoint
        (manager.healthEntry endpoint.endpointId).1) now endpoints := by
  unfold eligible
  rw [List.filter_cons_of_pos (by simp [hready]), List.eraseDupsBy_cons,
    List.filter_filter]
  congr 2
  apply List.filter_congr
  intro other _
  rw [cooling_recordFailure hmade hnow]
  cases other.endpointId == endpoint.endpointId <;> simp

end Recorded

/-- Nobody is asked who cools down when the frame is taken up. -/
theorem Course.ready (hnow : now.toNat ≤ 2 ^ 64 - 512)
    (hcourse : Course sender now bytes highestPriority endpoints manager exchanges after) :
    ∀ made ∈ exchanges, cooling manager now made.endpoint = false := by
  induction hcourse with
  | exhausted => simp
  | skipped _ _ ih => exact ih
  | answered hready hmade =>
      simpa [endpoint_of_exchange hmade] using hready
  | failed hready hmade _ _ ih =>
      rw [List.forall_mem_cons, endpoint_of_exchange hmade]
      refine ⟨hready, ?_⟩
      intro later hlater
      have hcool := ih later hlater
      rw [cooling_recordFailure hmade hnow, Bool.or_eq_false_iff] at hcool
      exact hcool.2

theorem Course.mem_endpoints
    (hcourse : Course sender now bytes highestPriority endpoints manager exchanges after) :
    ∀ made ∈ exchanges, made.endpoint ∈ endpoints := by
  induction hcourse with
  | exhausted => simp
  | skipped _ _ ih =>
      intro made hmade
      exact List.mem_cons_of_mem _ (ih made hmade)
  | answered _ hmade => simp [endpoint_of_exchange hmade]
  | failed _ hmade _ _ ih =>
      rw [List.forall_mem_cons, endpoint_of_exchange hmade]
      refine ⟨List.mem_cons_self, ?_⟩
      intro later hlater
      exact List.mem_cons_of_mem _ (ih later hlater)

/-- The loop asks whom the reference asks. -/
theorem Course.asked (hnow : now.toNat ≤ 2 ^ 64 - 512)
    (hcourse : Course sender now bytes highestPriority endpoints manager exchanges after) :
    ask sender bytes (eligible manager now endpoints) manager.sender =
      (exchanges, after.sender) := by
  induction hcourse with
  | exhausted => rfl
  | skipped hcooling _ ih => simpa [eligible, hcooling] using ih
  | answered hready hmade hvalue =>
      simp [eligible, hready, List.eraseDupsBy_cons, ask, hmade, hvalue]
      rfl
  | failed hready hmade hnone _ ih =>
      rw [eligible_recordFailure hmade hnow hready, ask, hmade]
      dsimp only
      rw [hnone]
      exact congrArg (fun asked : List Exchange × σ => (_ :: asked.1, asked.2)) ih

theorem failedIds_cons {made : Exchange} (hnone : made.response = none)
    (exchanges : List Exchange) :
    failedIds (made :: exchanges) = made.endpointId :: failedIds exchanges := by
  simp [failedIds, hnone]

theorem answeredIds_cons {made : Exchange} (hnone : made.response = none)
    (exchanges : List Exchange) :
    answeredIds (made :: exchanges) = answeredIds exchanges := by
  simp [answeredIds, hnone]

/-- Whoever failed is not asked again. -/
theorem Course.other_ids (hnow : now.toNat ≤ 2 ^ 64 - 512) {endpoint : RelayEndpoint}
    {made : Exchange} {state : σ}
    (hmade : exchange sender bytes endpoint manager.sender = (made, state))
    (hrest : Course sender now bytes highestPriority endpoints
      ((exchanged manager bytes made state).recordFailure now endpoint
        (manager.healthEntry endpoint.endpointId).1) exchanges after) :
    endpoint.endpointId ∉ exchanges.map Exchange.endpointId := by
  intro hmem
  obtain ⟨later, hlater, hsame⟩ := List.mem_map.mp hmem
  have hready := hrest.ready hnow later hlater
  rw [cooling_recordFailure hmade hnow, Bool.or_eq_false_iff] at hready
  exact beq_eq_false_iff_ne.mp hready.1 hsame

theorem failedIds_subset (exchanges : List Exchange) :
    failedIds exchanges ⊆ exchanges.map Exchange.endpointId :=
  List.map_subset _ (List.filter_subset_self exchanges)

theorem answeredIds_subset (exchanges : List Exchange) :
    answeredIds exchanges ⊆ exchanges.map Exchange.endpointId :=
  List.map_subset _ (List.filter_subset_self exchanges)

theorem Course.lookup_health (hnow : now.toNat ≤ 2 ^ 64 - 512)
    (hcourse : Course sender now bytes highestPriority endpoints manager exchanges after)
    (id : Id16) : after.health.lookup id = healthAfter manager now exchanges id := by
  induction hcourse with
  | exhausted => simp [healthAfter, failedIds, answeredIds]
  | skipped _ _ ih => exact ih
  | answered hready hmade hvalue =>
      rw [lookup_recordSuccess hmade]
      simp [healthAfter, failedIds, answeredIds, hvalue, Exchange.endpointId,
        endpoint_of_exchange hmade]
  | @failed endpoint endpoints manager after made state exchanges hready hmade hnone hrest
      ih =>
      have hself : made.endpointId = endpoint.endpointId :=
        congrArg RelayEndpoint.endpointId (endpoint_of_exchange hmade)
      have hentry := lookup_recordFailure hmade now id
      rw [ih]
      simp only [healthAfter_eq]
      rw [failedIds_cons hnone, answeredIds_cons hnone, hself]
      by_cases hid : id = endpoint.endpointId
      · subst hid
        have hlater := hrest.other_ids hnow hmade
        rw [if_neg (fun hmem => hlater (failedIds_subset exchanges hmem)),
          if_neg (fun hmem => hlater (answeredIds_subset exchanges hmem)),
          if_pos List.mem_cons_self, hentry, if_pos rfl]
      · rw [if_neg hid] at hentry
        rw [healthEntry_fst, hentry, ← healthEntry_fst]
        simp only [List.mem_cons, hid, false_or]

/-- Every id is asked at most once. -/
theorem Course.nodup (hnow : now.toNat ≤ 2 ^ 64 - 512)
    (hcourse : Course sender now bytes highestPriority endpoints manager exchanges after) :
    (exchanges.map Exchange.endpointId).Nodup := by
  induction hcourse with
  | exhausted => exact List.nodup_nil
  | skipped _ _ ih => exact ih
  | answered => exact List.nodup_singleton _
  | failed _ hmade _ hrest ih =>
      rw [List.map_cons, Exchange.endpointId, endpoint_of_exchange hmade]
      exact List.nodup_cons.mpr ⟨hrest.other_ids hnow hmade, ih⟩

theorem Course.answered_not_failed (hnow : now.toNat ≤ 2 ^ 64 - 512)
    (hcourse : Course sender now bytes highestPriority endpoints manager exchanges after)
    {id : Id16} (hanswered : id ∈ answeredIds exchanges) : id ∉ failedIds exchanges := by
  intro hfailed
  obtain ⟨first, hfirst, hid⟩ := List.mem_map.mp hanswered
  obtain ⟨second, hsecond, hsame⟩ := List.mem_map.mp hfailed
  rw [List.mem_filter] at hfirst hsecond
  have heq := List.inj_on_of_nodup_map (hcourse.nodup hnow) hfirst.1 hsecond.1
    (hid.trans hsame.symm)
  rw [← heq, hfirst.2] at hsecond
  cases hsecond.2

/-- One id answered if there is a response, and none otherwise. -/
theorem Course.length_answeredIds
    (hcourse : Course sender now bytes highestPriority endpoints manager exchanges after) :
    (answeredIds exchanges).length = if (response exchanges).isSome then 1 else 0 := by
  induction hcourse with
  | exhausted => rfl
  | skipped _ _ ih => exact ih
  | answered _ _ hvalue => simp [answeredIds, response, hvalue]
  | failed _ _ hnone _ ih =>
      rw [answeredIds_cons hnone, ih]
      simp [response, hnone]

theorem Course.answeredIds_eq
    (hcourse : Course sender now bytes highestPriority endpoints manager exchanges after)
    {id : Id16} (hid : id ∈ answeredIds exchanges) : answeredIds exchanges = [id] := by
  have hlength := hcourse.length_answeredIds
  have hpositive := List.length_pos_of_mem hid
  split at hlength
  · obtain ⟨only, honly⟩ := List.length_eq_one_iff.mp hlength
    rw [honly, List.mem_singleton] at hid
    rw [honly, hid]
  · omega

/-- The one that answered is preferred from now on. -/
theorem Course.preferred
    (hcourse : Course sender now bytes highestPriority endpoints manager exchanges after) :
    after.preferredEndpoint =
      (answeredIds exchanges).head?.or manager.preferredEndpoint := by
  have hentered (manager : TransportManager σ) (id : Id16) :
      (manager.healthEntry id).2.preferredEndpoint = manager.preferredEndpoint := by
    unfold TransportManager.healthEntry
    split <;> rfl
  induction hcourse with
  | exhausted => rfl
  | skipped _ _ ih => exact ih
  | answered hready hmade hvalue =>
      simp [answeredIds, hvalue, Exchange.endpointId, endpoint_of_exchange hmade,
        TransportManager.recordSuccess]
  | failed hready hmade hnone _ ih =>
      rw [ih, answeredIds_cons hnone]
      exact congrArg (Option.or _) (hentered _ _)

/-- What a flush does not touch for a frame. -/
theorem Course.standing
    (hcourse : Course sender now bytes highestPriority endpoints manager exchanges after) :
    identity after = identity manager ∧ after.outbox = manager.outbox := by
  induction hcourse with
  | exhausted => exact ⟨rfl, rfl⟩
  | skipped _ _ ih => exact ih
  | answered =>
      exact ⟨identity_healthEntry _ _, Outbox.outbox_healthEntry _ _⟩
  | failed _ _ _ _ ih =>
      exact ⟨ih.1.trans (identity_healthEntry _ _),
        ih.2.trans (Outbox.outbox_healthEntry _ _)⟩

theorem Course.directory
    (hcourse : Course sender now bytes highestPriority endpoints manager exchanges after) :
    after.directory = manager.directory :=
  congrArg Prod.fst hcourse.standing.1

end Loop

/-! ## A frame is processed as the reference says -/

/-- The loop over the first endpoints of the order. -/
def reach (sender : EndpointSender σ) (now : UInt64) (bytes : Bytes)
    (manager : TransportManager σ) (before : List RelayEndpoint) :
    Option Bytes × TransportManager σ × List Contact :=
  TransportManager.tryEndpoints sender now bytes
    (manager.sortedEndpoints.head?.map RelayEndpoint.endpointId) before manager

/-- One frame with these bytes is processed as it should be, from one state of the
manager to the next, by these exchanges. -/
structure Conforms (sender : EndpointSender σ) (now : UInt64) (bytes : Bytes)
    (manager : TransportManager σ) (exchanges : List Exchange)
    (after : TransportManager σ) : Prop where
  /-- The eligible endpoints are asked in the stable order of whether they are
  preferred and of their priority, up to and including the first that answers. -/
  asked : ask sender bytes
      (eligible manager now (StableSort.sortBy
        (RelayOrder.triedKey manager.preferredEndpoint) manager.directory.endpoints))
      manager.sender = (exchanges, after.sender)
  /-- An endpoint that is reached while nobody has answered is contacted exactly when
  it does not cool down at that moment. -/
  reached : ∀ before endpoint rest, manager.sortedEndpoints = before ++ endpoint :: rest →
    (reach sender now bytes manager before).1 = none →
    (reach sender now bytes manager (before ++ [endpoint])).2.2 =
      (reach sender now bytes manager before).2.2 ++
        if cooling (reach sender now bytes manager before).2.1 now endpoint then []
        else (exchange sender bytes endpoint
          (reach sender now bytes manager before).2.1.sender).1.calls bytes
  /-- Nobody is contacted after an answer. -/
  stopped : ∀ before rest, manager.sortedEndpoints = before ++ rest →
    (reach sender now bytes manager before).1 ≠ none →
    calls bytes exchanges = (reach sender now bytes manager before).2.2
  /-- Whoever answered is preferred and has a clean entry. -/
  answered : ∀ id ∈ answeredIds exchanges, after.preferredEndpoint = some id ∧
    after.health.lookup id = some ⟨id, 0, 0⟩
  /-- Whoever failed has one failure more and cools down. -/
  failed : ∀ id ∈ failedIds exchanges, ∃ failures retryAfter,
    after.health.lookup id = some ⟨id, failures, retryAfter⟩ ∧
    failures = TransportManager.nextFailures (manager.healthEntry id).1.failures ∧
    now.toNat + 2 ^ min failures.toNat 8 ≤ retryAfter.toNat ∧
    retryAfter.toNat ≤ now.toNat + 2 ^ (min failures.toNat 8 + 1) - 1
  /-- All other entries stay. -/
  others : ∀ id, id ∉ answeredIds exchanges → id ∉ failedIds exchanges →
    after.health.lookup id = manager.health.lookup id
  /-- Without an answer the preference stays. -/
  unanswered : answeredIds exchanges = [] →
    after.preferredEndpoint = manager.preferredEndpoint
  standing : identity after = identity manager ∧ after.outbox = manager.outbox

section Conforms

variable {sender : EndpointSender σ} {now : UInt64} {bytes : Bytes}
  {manager after : TransportManager σ} {exchanges : List Exchange}

/-- The way of the loop for a frame. -/
def Processed (sender : EndpointSender σ) (now : UInt64) (bytes : Bytes)
    (manager : TransportManager σ) (exchanges : List Exchange)
    (after : TransportManager σ) : Prop :=
  Course sender now bytes (manager.sortedEndpoints.head?.map RelayEndpoint.endpointId)
    manager.sortedEndpoints manager exchanges after

theorem Processed.conforms (hnow : now.toNat ≤ 2 ^ 64 - 512)
    (hframe : Processed sender now bytes manager exchanges after) :
    Conforms sender now bytes manager exchanges after where
  asked := by
    rw [← RelayOrder.sortedEndpoints_eq]
    exact hframe.asked hnow
  reached := by
    intro before endpoint rest _ hnobody
    rcases hbefore : reach sender now bytes manager before with ⟨delivered, state, sofar⟩
    rw [hbefore] at hnobody
    obtain rfl : delivered = none := hnobody
    have hwhole := tryEndpoints_append before [endpoint] manager hbefore
    simp only [Option.isSome_none, Bool.false_eq_true, if_false] at hwhole
    rw [reach, hwhole]
    exact congrArg (sofar ++ ·) (tryEndpoints_singleton endpoint state)
  stopped := by
    intro before rest hsplit hsomebody
    rcases hbefore : reach sender now bytes manager before with ⟨delivered, state, sofar⟩
    rw [hbefore] at hsomebody
    have hwhole := tryEndpoints_append before rest manager hbefore
    rw [← hsplit, if_pos (Option.isSome_iff_ne_none.mpr hsomebody), hframe.loop] at hwhole
    exact congrArg (fun outcome => outcome.2.2) hwhole
  answered := by
    intro id hid
    constructor
    · rw [hframe.preferred, hframe.answeredIds_eq hid]
      rfl
    · rw [hframe.lookup_health hnow, healthAfter_eq,
        if_neg (hframe.answered_not_failed hnow hid), if_pos hid]
  failed := by
    intro id hid
    have hlookup := hframe.lookup_health hnow id
    rw [healthAfter_eq, if_pos hid, penalised, endpointId_healthEntry] at hlookup
    exact ⟨_, _, hlookup, rfl, toNat_cooldown hnow _ _⟩
  others := by
    intro id hanswered hfailed
    rw [hframe.lookup_health hnow, healthAfter_eq, if_neg hfailed, if_neg hanswered]
  unanswered := by
    intro hnobody
    rw [hframe.preferred, hnobody]
    rfl
  standing := hframe.standing

end Conforms

end ResilientMessenger.Exchanges
