import ResilientMessenger.Transport.Flushes

/-!
# What the counters count

The manager counts in words of 64 bits, at different points of the loop.  A journal
keeps what really happened in a run, every frame that was tried with its calls and
the directory of that time, and `Tally` adds it up in natural numbers.  One frame
changes the counters by the tally of its calls and by one if the relay was switched,
so after every run the counters are the tally of the journal.
-/

namespace ResilientMessenger.Counters

open ResilientMessenger.ByteCodec
open ResilientMessenger.Directory
open ResilientMessenger.Manager
open ResilientMessenger.Contacts
open ResilientMessenger.Exchanges
open ResilientMessenger.Flushes
open ResilientMessenger.Runs
open ResilientMessenger.Outbox (Operation Refused Settled answeredOk deliveries)

variable {σ : Type}

/-! ## Tallies -/

/-- The counters without a bound. -/
structure Tally where
  sent : ℕ
  received : ℕ
  attempts : ℕ
  websocketFailures : ℕ
  httpsFailures : ℕ
  relaySwitches : ℕ

namespace Tally

instance : Add Tally where
  add left right :=
    { sent := left.sent + right.sent
      received := left.received + right.received
      attempts := left.attempts + right.attempts
      websocketFailures := left.websocketFailures + right.websocketFailures
      httpsFailures := left.httpsFailures + right.httpsFailures
      relaySwitches := left.relaySwitches + right.relaySwitches }

theorem add_def (left right : Tally) :
    left + right =
      { sent := left.sent + right.sent
        received := left.received + right.received
        attempts := left.attempts + right.attempts
        websocketFailures := left.websocketFailures + right.websocketFailures
        httpsFailures := left.httpsFailures + right.httpsFailures
        relaySwitches := left.relaySwitches + right.relaySwitches } := rfl

/-- What the counters show: the tally modulo the size of a word. -/
def counters (tally : Tally) : ByteCounters where
  sent := UInt64.ofNat tally.sent
  received := UInt64.ofNat tally.received
  attempts := UInt64.ofNat tally.attempts
  websocketFailures := UInt64.ofNat tally.websocketFailures
  httpsFailures := UInt64.ofNat tally.httpsFailures
  relaySwitches := UInt64.ofNat tally.relaySwitches

def switches (count : ℕ) : Tally := ⟨0, 0, 0, 0, 0, count⟩

/-- No counter exceeds its word. -/
def Fits (tally : Tally) : Prop :=
  tally.sent < 2 ^ 64 ∧ tally.received < 2 ^ 64 ∧ tally.attempts < 2 ^ 64 ∧
    tally.websocketFailures < 2 ^ 64 ∧ tally.httpsFailures < 2 ^ 64 ∧
    tally.relaySwitches < 2 ^ 64

end Tally

/-- Counters that go on counting. -/
def plus (counters : ByteCounters) (tally : Tally) : ByteCounters where
  sent := counters.sent + tally.counters.sent
  received := counters.received + tally.counters.received
  attempts := counters.attempts + tally.counters.attempts
  websocketFailures := counters.websocketFailures + tally.counters.websocketFailures
  httpsFailures := counters.httpsFailures + tally.counters.httpsFailures
  relaySwitches := counters.relaySwitches + tally.counters.relaySwitches

theorem plus_plus (counters : ByteCounters) (left right : Tally) :
    plus (plus counters left) right = plus counters (left + right) := by
  simp [plus, Tally.counters, Tally.add_def, UInt64.ofNat_add, UInt64.add_assoc]

theorem plus_counters (left right : Tally) :
    plus left.counters right = (left + right).counters := by
  simp [plus, Tally.counters, Tally.add_def, UInt64.ofNat_add]

/-! ## Calls -/

def refusedWebsocket (contact : Contact) : Bool :=
  byWebsocket contact && !answeredOk contact

def refusedHttps (contact : Contact) : Bool :=
  byHttps contact && !answeredOk contact

/-- The length of the response, if there is one. -/
def answerLength (contact : Contact) : ℕ := (contact.answer.toOption.map List.length).getD 0

def ofContacts (calls : List Contact) : Tally where
  sent := (calls.map fun contact => contact.bytes.length).sum
  received := (calls.map answerLength).sum
  attempts := calls.length
  websocketFailures := calls.countP refusedWebsocket
  httpsFailures := calls.countP refusedHttps
  relaySwitches := 0

theorem ofContacts_append (left right : List Contact) :
    ofContacts (left ++ right) = ofContacts left + ofContacts right := by
  simp [ofContacts, Tally.add_def]

theorem ofContacts_websocket (bytes : Bytes) (endpoint : RelayEndpoint) (value : Bytes) :
    ofContacts ((Exchange.websocket endpoint value).calls bytes) =
      ⟨bytes.length, value.length, 1, 0, 0, 0⟩ := rfl

theorem ofContacts_https (bytes : Bytes) (endpoint : RelayEndpoint)
    (failure : TransportError) (value : Bytes) :
    ofContacts ((Exchange.https endpoint failure value).calls bytes) =
      ⟨bytes.length + bytes.length, 0 + value.length, 1 + 1, 1, 0, 0⟩ := rfl

theorem ofContacts_failed (bytes : Bytes) (endpoint : RelayEndpoint)
    (first second : TransportError) :
    ofContacts ((Exchange.failed endpoint first second).calls bytes) =
      ⟨bytes.length + bytes.length, 0, 1 + 1, 1, 1, 0⟩ := rfl

/-- Every call fails by WebSocket, fails by HTTPS or is answered. -/
theorem attempts_ofContacts (calls : List Contact) :
    (ofContacts calls).attempts = (ofContacts calls).websocketFailures +
      (ofContacts calls).httpsFailures + calls.countP answeredOk := by
  induction calls with
  | nil => rfl
  | cons contact calls ih =>
      simp only [ofContacts, List.length_cons, List.countP_cons] at ih ⊢
      rw [ih]
      cases hanswer : answeredOk contact <;> cases hchannel : contact.channel <;>
        simp [refusedWebsocket, refusedHttps, byWebsocket, byHttps, hanswer, hchannel] <;>
        omega

/-! ## One frame -/

/-- Whether a success of this endpoint counts as a switch. -/
def switched (preferred highestPriority : Option Id16) (id : Id16) : ℕ :=
  if preferred ≠ some id ∧ (preferred.isSome ∨ highestPriority ≠ some id) then 1 else 0

section Frame

variable {sender : EndpointSender σ} {now : UInt64} {bytes : Bytes}
  {highestPriority : Option Id16} {endpoints : List RelayEndpoint}
  {manager after : TransportManager σ} {exchanges : List Exchange}

theorem preferred_healthEntry (manager : TransportManager σ) (id : Id16) :
    (manager.healthEntry id).2.preferredEndpoint = manager.preferredEndpoint := by
  unfold TransportManager.healthEntry
  split <;> rfl

theorem counters_healthEntry (manager : TransportManager σ) (id : Id16) :
    (manager.healthEntry id).2.counters = manager.counters := by
  unfold TransportManager.healthEntry
  split <;> rfl

theorem counters_recordFailure {endpoint : RelayEndpoint} {made : Exchange} {state : σ}
    (hnone : made.response = none) (health : Health) :
    ((exchanged manager bytes made state).recordFailure now endpoint health).counters =
      plus manager.counters (ofContacts (made.calls bytes)) := by
  cases made with
  | websocket | https => cases hnone
  | failed endpoint first second =>
      simp only [TransportManager.recordFailure, TransportManager.setHealth, exchanged,
        counted, counters_healthEntry, plus, Tally.counters, ByteCounters.mk.injEq]
      simp [ofContacts_failed, UInt64.add_assoc]

theorem counters_recordSuccess {endpoint : RelayEndpoint} {made : Exchange} {state : σ}
    {value : Bytes} (hvalue : made.response = some value) :
    ((exchanged manager bytes made state).recordSuccess endpoint highestPriority
        value).counters =
      plus (plus manager.counters (ofContacts (made.calls bytes)))
        (Tally.switches (switched manager.preferredEndpoint highestPriority
          endpoint.endpointId)) := by
  have hswitch : (if manager.preferredEndpoint ≠ some endpoint.endpointId ∧
        (manager.preferredEndpoint.isSome ∨ highestPriority ≠ some endpoint.endpointId) then
        (1 : UInt64) else 0) = UInt64.ofNat (switched manager.preferredEndpoint
          highestPriority endpoint.endpointId) := by
    unfold switched
    split <;> rfl
  cases made with
  | failed => cases hvalue
  | websocket | https =>
      cases hvalue
      simp only [TransportManager.recordSuccess, TransportManager.setHealth, exchanged,
        counted, counters_healthEntry, preferred_healthEntry, hswitch, plus,
        Tally.counters, Tally.switches, ByteCounters.mk.injEq]
      simp [ofContacts_websocket, ofContacts_https, UInt64.add_assoc]

/-- The switch a frame counts, if it is answered. -/
def frameSwitch (manager : TransportManager σ) (highestPriority : Option Id16)
    (exchanges : List Exchange) : ℕ :=
  ((answeredIds exchanges).head?.map
    (switched manager.preferredEndpoint highestPriority)).getD 0

/-- One frame counts its calls and, at its answer, a switch. -/
theorem counters_course
    (hcourse : Course sender now bytes highestPriority endpoints manager exchanges after) :
    after.counters =
      plus manager.counters (ofContacts (calls bytes exchanges) +
        Tally.switches (frameSwitch manager highestPriority exchanges)) := by
  induction hcourse with
  | exhausted manager =>
      simp [plus, Tally.counters, Tally.add_def, ofContacts, calls, Tally.switches,
        frameSwitch, answeredIds]
  | skipped _ _ ih => exact ih
  | answered _ hmade hvalue =>
      have hid := endpoint_of_exchange hmade
      rw [counters_recordSuccess hvalue, plus_plus]
      simp [calls, frameSwitch, answeredIds, hvalue, Exchange.endpointId, hid]
  | @failed endpoint endpoints manager after made state exchanges _ _ hnone _ ih =>
      have hcalls : calls bytes (made :: exchanges) =
          made.calls bytes ++ calls bytes exchanges := rfl
      have hpreferred : ((exchanged manager bytes made state).recordFailure now endpoint
          (manager.healthEntry endpoint.endpointId).1).preferredEndpoint =
            manager.preferredEndpoint := preferred_healthEntry _ _
      rw [ih, counters_recordFailure hnone, plus_plus, hcalls, ofContacts_append]
      simp only [frameSwitch, answeredIds_cons hnone, hpreferred, Tally.add_def,
        Nat.add_assoc]

end Frame

/-! ## Journals -/

/-- A frame that was tried, with the directory of that time. -/
structure Entry where
  directory : SignedRelayDirectory
  round : Round

/-- The endpoint whose answer delivered the frame. -/
def Entry.deliveredBy (entry : Entry) : Option Id16 :=
  (entry.round.contacts.find? answeredOk).map fun contact => contact.endpoint.endpointId

/-- The deliveries, each with the directory of that time and the endpoint. -/
def served (entries : List Entry) : List (SignedRelayDirectory × Id16) :=
  entries.filterMap fun entry => entry.deliveredBy.map fun id => (entry.directory, id)

/-- The first endpoint in the order of the directory, as long as none is preferred. -/
def firstInOrder (directory : SignedRelayDirectory) : Option Id16 :=
  (StableSort.sortBy (RelayOrder.triedKey none) directory.endpoints).head?.map
    RelayEndpoint.endpointId

/-- Neighbours in the list that differ. -/
def changes (ids : List Id16) : ℕ :=
  (ids.zip ids.tail).countP fun pair => pair.1 ≠ pair.2

/-- The deliveries by another endpoint than the delivery before, and one more if the
first was not by the first endpoint of the directory. -/
def relaySwitches (deliveries : List (SignedRelayDirectory × Id16)) : ℕ :=
  changes (deliveries.map Prod.snd) +
    (deliveries.head?.map fun first =>
      if firstInOrder first.1 = some first.2 then 0 else 1).getD 0

/-- What happened, in natural numbers. -/
def tally (entries : List Entry) : Tally :=
  ofContacts (contacts (entries.map Entry.round)) +
    Tally.switches (relaySwitches (served entries))

/-- The manager with the record of all frames it tried. -/
structure Journal (σ : Type) where
  manager : TransportManager σ
  entries : List Entry

def Journal.start (manager : TransportManager σ) : Journal σ := ⟨manager, []⟩

def Journal.step (scheme : SignatureScheme) (sender : EndpointSender σ)
    (journal : Journal σ) : Operation → Journal σ
  | .enqueue frame => { journal with manager := (journal.manager.enqueue frame).2 }
  | .flush now =>
      { manager := (journal.manager.flush sender now).2.1
        entries := journal.entries ++ (journal.manager.flush sender now).2.2.map
          (Entry.mk journal.manager.directory) }
  | .updateDirectory next now =>
      { journal with
        manager := (journal.manager.updateDirectory scheme next now).2 }
  | .notifyNetworkChange =>
      { journal with manager := journal.manager.notifyNetworkChange }

/-- The counters are the tally, and the preferred endpoint is that of the last
delivery. -/
structure Balanced (manager : TransportManager σ) (entries : List Entry) : Prop where
  counters : manager.counters = (tally entries).counters
  preferred : manager.preferredEndpoint = (served entries).getLast?.map Prod.snd

theorem changes_cons_cons (first second : Id16) (ids : List Id16) :
    changes (first :: second :: ids) =
      changes (second :: ids) + if first ≠ second then 1 else 0 := by
  simp [changes, List.countP_cons]

theorem changes_concat (ids : List Id16) (last id : Id16) :
    changes (ids ++ [last, id]) =
      changes (ids ++ [last]) + if last ≠ id then 1 else 0 := by
  induction ids with
  | nil => simp [changes]
  | cons first ids ih =>
      cases ids with
      | nil =>
          have hsingle (only : Id16) : changes [only] = 0 := rfl
          simp only [List.cons_append, List.nil_append, changes_cons_cons, hsingle]
          omega
      | cons second ids =>
          simp only [List.cons_append, changes_cons_cons] at ih ⊢
          rw [ih]
          omega

/-- A further delivery counts as a switch exactly when the manager counts it. -/
theorem relaySwitches_concat {manager : TransportManager σ}
    {deliveries : List (SignedRelayDirectory × Id16)}
    (hpreferred : manager.preferredEndpoint = deliveries.getLast?.map Prod.snd)
    (id : Id16) :
    relaySwitches (deliveries ++ [(manager.directory, id)]) =
      relaySwitches deliveries + switched manager.preferredEndpoint
        (manager.sortedEndpoints.head?.map RelayEndpoint.endpointId) id := by
  rw [RelayOrder.sortedEndpoints_eq, hpreferred]
  induction deliveries using List.reverseRecOn with
  | nil =>
      simp only [List.getLast?_nil, Option.map_none, List.nil_append]
      rw [← firstInOrder]
      by_cases hfirst : firstInOrder manager.directory = some id <;>
        simp [relaySwitches, changes, switched, hfirst]
  | append_singleton deliveries last _ =>
      have hhead : (deliveries ++ [last, (manager.directory, id)]).head? =
          (deliveries ++ [last]).head? := by
        cases deliveries <;> rfl
      have hswitched (highest : Option Id16) :
          switched (some last.2) highest id = if last.2 ≠ id then 1 else 0 := by
        simp [switched]
      rw [List.getLast?_concat, Option.map_some, hswitched]
      simp only [relaySwitches, List.map_append, List.map_cons, List.map_nil,
        List.append_assoc, List.cons_append, List.nil_append, changes_concat, hhead]
      omega

/-! ## Runs -/

/-- The entry of a frame. -/
def passed (directory : SignedRelayDirectory) (passage : Passage) : Entry :=
  ⟨directory, passage.round⟩

theorem deliveredBy_passed (directory : SignedRelayDirectory) (bytes : Bytes)
    (exchanges : List Exchange) :
    (passed directory ⟨bytes, exchanges⟩).deliveredBy =
      (answeredIds exchanges).head? := by
  have hfound : ((calls bytes exchanges).find? answeredOk).map
      (fun contact => contact.endpoint.endpointId) = (answeredIds exchanges).head? := by
    induction exchanges with
    | nil => rfl
    | cons made exchanges ih =>
        cases made with
        | websocket | https => rfl
        | failed endpoint first second => exact ih
  exact hfound

theorem served_concat (entries : List Entry) (entry : Entry) :
    served (entries ++ [entry]) = served entries ++
      (entry.deliveredBy.map fun id => (entry.directory, id)).toList := by
  unfold served
  rw [List.filterMap_append]
  cases hdelivered : entry.deliveredBy <;> simp [hdelivered]

section Balance

variable {sender : EndpointSender σ} {now : UInt64} {manager after : TransportManager σ}
  {entries : List Entry}

theorem tally_concat {bytes : Bytes} {exchanges : List Exchange}
    (hpreferred : manager.preferredEndpoint = (served entries).getLast?.map Prod.snd) :
    tally (entries ++ [passed manager.directory ⟨bytes, exchanges⟩]) =
      tally entries + (ofContacts (calls bytes exchanges) + Tally.switches (frameSwitch
        manager (manager.sortedEndpoints.head?.map RelayEndpoint.endpointId)
        exchanges)) := by
  have hcontacts : contacts ((entries ++
      [passed manager.directory ⟨bytes, exchanges⟩]).map Entry.round) =
        contacts (entries.map Entry.round) ++ calls bytes exchanges := by
    simp [contacts, passed, Passage.round]
  have hswitches : relaySwitches (served (entries ++
      [passed manager.directory ⟨bytes, exchanges⟩])) = relaySwitches (served entries) +
        frameSwitch manager (manager.sortedEndpoints.head?.map RelayEndpoint.endpointId)
          exchanges := by
    rw [served_concat, deliveredBy_passed]
    unfold frameSwitch
    cases (answeredIds exchanges).head? with
    | none => simp
    | some id => exact relaySwitches_concat hpreferred id
  simp only [tally, hcontacts, hswitches, ofContacts_append, Tally.add_def,
    Tally.switches, Tally.mk.injEq]
  omega

theorem balanced_frame {bytes : Bytes} {exchanges : List Exchange}
    (hbalanced : Balanced manager entries)
    (hframe : Processed sender now bytes manager exchanges after) :
    Balanced after (entries ++ [passed manager.directory ⟨bytes, exchanges⟩]) where
  counters := by
    rw [counters_course hframe, hbalanced.counters, plus_counters,
      tally_concat hbalanced.preferred]
  preferred := by
    rw [hframe.preferred, hbalanced.preferred, served_concat, deliveredBy_passed]
    cases (answeredIds exchanges).head? with
    | none => simp
    | some id => simp

/-- What the balance depends on. -/
def books (manager : TransportManager σ) : ByteCounters × Option Id16 :=
  (manager.counters, manager.preferredEndpoint)

theorem Balanced.of_books (hbalanced : Balanced manager entries)
    (hbooks : books after = books manager) : Balanced after entries where
  counters := (congrArg Prod.fst hbooks).trans hbalanced.counters
  preferred := (congrArg Prod.snd hbooks).trans hbalanced.preferred

/-- A flush keeps the balance, frame by frame. -/
theorem balanced_flush {passages : List Passage}
    (hcourse : FlushCourse (Processed sender now) manager passages after)
    (hbalanced : Balanced manager entries) :
    Balanced after (entries ++ passages.map (passed manager.directory)) := by
  induction hcourse generalizing entries with
  | drained => simpa using hbalanced
  | stuck _ hframe _ => exact balanced_frame hbalanced hframe
  | @delivered manager after final frame frames exchanges value passages _ hframe _ _ ih =>
      have hnext := balanced_frame hbalanced hframe
      have hrest := ih (hnext.of_books rfl)
      rw [List.append_assoc] at hrest
      simp only [hframe.directory] at hrest
      exact hrest

end Balance

theorem balanced_step (scheme : SignatureScheme) (sender : EndpointSender σ)
    (journal : Journal σ) (operation : Operation)
    (hbalanced : Balanced journal.manager journal.entries) :
    Balanced (journal.step scheme sender operation).manager
      (journal.step scheme sender operation).entries := by
  cases operation with
  | enqueue frame =>
      apply hbalanced.of_books
      simp only [Journal.step, TransportManager.enqueue]
      split
      · rfl
      · split <;> rfl
  | flush now =>
      obtain ⟨passages, hcourse, hrounds⟩ := flush_course sender now journal.manager
      have hafter := balanced_flush hcourse hbalanced
      simp only [Journal.step, hrounds, List.map_map]
      exact hafter
  | updateDirectory next now =>
      apply hbalanced.of_books
      simp only [Journal.step, TransportManager.updateDirectory]
      split <;> rfl
  | notifyNetworkChange => exact hbalanced.of_books rfl

/-! ## Answers are deliveries -/

theorem answerLength_of_refused {bytes : Bytes} {calls : List Contact}
    (hrefused : ∀ contact ∈ calls, Refused bytes contact) :
    (calls.map answerLength).sum = 0 := by
  induction calls with
  | nil => rfl
  | cons contact calls ih =>
      rw [List.forall_mem_cons] at hrefused
      rw [List.map_cons, List.sum_cons, ih hrefused.2, answerLength, hrefused.1.2]
      rfl

/-- Of the calls for a frame the one that delivers it is the only one answered. -/
theorem answers_of_settled {round : Round} (hsettled : Settled round) :
    (round.contacts.map answerLength).sum =
        (round.delivered.map List.length).getD 0 ∧
      round.contacts.countP answeredOk = round.delivered.toList.length := by
  obtain ⟨bytes, calls, delivered⟩ := round
  cases delivered with
  | none => exact ⟨answerLength_of_refused hsettled, Outbox.countP_of_refused hsettled⟩
  | some value =>
      obtain ⟨refused, last, rfl, hrefused, _, hlast⟩ := hsettled
      constructor
      · rw [List.map_append, List.sum_append, answerLength_of_refused hrefused]
        simp [answerLength, hlast, Except.toOption]
      · rw [List.countP_append, Outbox.countP_of_refused hrefused]
        simp [answeredOk, hlast, Except.toOption]

theorem answers_of_rounds {rounds : List Round}
    (hsettled : ∀ round ∈ rounds, Settled round) :
    ((contacts rounds).map answerLength).sum =
        ((deliveries rounds).map fun delivery => delivery.2.length).sum ∧
      (contacts rounds).countP answeredOk = (deliveries rounds).length := by
  induction rounds with
  | nil => exact ⟨rfl, rfl⟩
  | cons round rounds ih =>
      rw [List.forall_mem_cons] at hsettled
      obtain ⟨hlengths, hcount⟩ := ih hsettled.2
      obtain ⟨hlength, hone⟩ := answers_of_settled hsettled.1
      have hcontacts : contacts (round :: rounds) = round.contacts ++ contacts rounds := rfl
      rw [hcontacts, List.map_append, List.sum_append, List.countP_append, hlengths,
        hcount, hlength, hone]
      cases hdelivered : round.delivered with
      | none => simp [deliveries, hdelivered]
      | some value =>
          simp only [deliveries, List.filterMap_cons, hdelivered, Option.map_some]
          simp
          omega

theorem settled_step (scheme : SignatureScheme) (sender : EndpointSender σ)
    (journal : Journal σ) (operation : Operation)
    (hsettled : ∀ entry ∈ journal.entries, Settled entry.round) :
    ∀ entry ∈ (journal.step scheme sender operation).entries, Settled entry.round := by
  cases operation with
  | flush now =>
      obtain ⟨responses, remaining, hflushed, _⟩ :=
        Outbox.flush_spec sender now journal.manager
      intro entry hentry
      rcases List.mem_append.mp hentry with hold | hnew
      · exact hsettled entry hold
      · obtain ⟨round, hround, rfl⟩ := List.mem_map.mp hnew
        exact hflushed.settled round hround
  | enqueue | updateDirectory | notifyNetworkChange => exact hsettled

/-! ## The counters of a run -/

/-- The counters say what happened. -/
structure Accounts (counters : ByteCounters) (entries : List Entry) : Prop where
  /-- Every attempt fails by WebSocket, fails by HTTPS or delivers a frame. -/
  outcomes : counters.attempts.toNat =
    counters.websocketFailures.toNat + counters.httpsFailures.toNat +
      (deliveries (entries.map Entry.round)).length
  /-- The attempts are the calls of the sender. -/
  attempts : counters.attempts.toNat = (contacts (entries.map Entry.round)).length
  /-- Sent are the bytes of the frame with every call. -/
  sent : counters.sent.toNat =
    ((contacts (entries.map Entry.round)).map fun contact => contact.bytes.length).sum
  /-- Received are the responses of the frames delivered. -/
  received : counters.received.toNat =
    ((deliveries (entries.map Entry.round)).map fun delivery => delivery.2.length).sum
  switches : counters.relaySwitches.toNat = relaySwitches (served entries)

theorem accounts_of_balanced {manager : TransportManager σ} {entries : List Entry}
    (hbalanced : Balanced manager entries)
    (hsettled : ∀ entry ∈ entries, Settled entry.round) (hfits : (tally entries).Fits) :
    Accounts manager.counters entries := by
  obtain ⟨hsent, hreceived, hattempts, hwebsocket, hhttps, hswitches⟩ := hfits
  have hrounds : ∀ round ∈ entries.map Entry.round, Settled round := by
    intro round hround
    obtain ⟨entry, hentry, rfl⟩ := List.mem_map.mp hround
    exact hsettled entry hentry
  obtain ⟨hlengths, hcount⟩ := answers_of_rounds hrounds
  have houtcomes := attempts_ofContacts (contacts (entries.map Entry.round))
  rw [hcount] at houtcomes
  rw [hbalanced.counters]
  constructor
  · simp only [Tally.counters, UInt64.toNat_ofNat_of_lt' hattempts,
      UInt64.toNat_ofNat_of_lt' hwebsocket, UInt64.toNat_ofNat_of_lt' hhttps]
    exact houtcomes
  · exact UInt64.toNat_ofNat_of_lt' hattempts
  · exact UInt64.toNat_ofNat_of_lt' hsent
  · rw [← hlengths]
    exact UInt64.toNat_ofNat_of_lt' hreceived
  · calc (tally entries).counters.relaySwitches.toNat
        = 0 + relaySwitches (served entries) := UInt64.toNat_ofNat_of_lt' hswitches
      _ = relaySwitches (served entries) := Nat.zero_add _

/-- What a run did. -/
def history (scheme : SignatureScheme) (sender : EndpointSender σ)
    (manager : TransportManager σ) (operations : List Operation) : Journal σ :=
  run (Journal.step scheme sender) (Journal.start manager) operations

theorem balanced_new {scheme : SignatureScheme} {state : σ}
    {directory : SignedRelayDirectory} {verificationKey : Id32} {now : UInt64}
    {manager : TransportManager σ}
    (hnew : TransportManager.new scheme state directory verificationKey now =
      .ok manager) : Balanced manager [] := by
  unfold TransportManager.new at hnew
  obtain ⟨_, _, hmanager⟩ := Transaction.bind_eq_ok.mp hnew
  cases hmanager
  exact ⟨rfl, rfl⟩

/-- As long as no counter exceeds its word, after every run the counters say what
happened in it. -/
theorem counters_of_run (scheme : SignatureScheme) (sender : EndpointSender σ) (state : σ)
    (directory : SignedRelayDirectory) (verificationKey : Id32) (now : UInt64)
    (manager : TransportManager σ)
    (hnew : TransportManager.new scheme state directory verificationKey now = .ok manager)
    (operations : List Operation)
    (hfits : (tally (history scheme sender manager operations).entries).Fits) :
    Accounts (history scheme sender manager operations).manager.counters
      (history scheme sender manager operations).entries := by
  have hstart : Balanced (Journal.start manager).manager
      (Journal.start manager).entries := balanced_new hnew
  have hbalanced := run_invariant
    (P := fun journal : Journal σ => Balanced journal.manager journal.entries)
    (balanced_step scheme sender) hstart operations
  have hsettled := run_invariant
    (P := fun journal : Journal σ => ∀ entry ∈ journal.entries, Settled entry.round)
    (settled_step scheme sender) (by simp [Journal.start] : ∀ entry ∈
      (Journal.start manager).entries, Settled entry.round) operations
  exact accounts_of_balanced hbalanced hsettled hfits

/-- The second relay takes over from the first, and later the first from the second:
two switches, the second of them after a network change. -/
theorem counters_of_failover :
    (tally (history SignatureScheme.neutral Outbox.scripted
        (Outbox.sampleManager [false, false, true, false, false, true])
        [.enqueue (Outbox.sampleFrame 8), .flush 1000, .enqueue (Outbox.sampleFrame 9),
          .notifyNetworkChange, .flush 1060]).entries).relaySwitches = 2 ∧
      Accounts (history SignatureScheme.neutral Outbox.scripted
          (Outbox.sampleManager [false, false, true, false, false, true])
          [.enqueue (Outbox.sampleFrame 8), .flush 1000, .enqueue (Outbox.sampleFrame 9),
            .notifyNetworkChange, .flush 1060]).manager.counters
        (history SignatureScheme.neutral Outbox.scripted
          (Outbox.sampleManager [false, false, true, false, false, true])
          [.enqueue (Outbox.sampleFrame 8), .flush 1000, .enqueue (Outbox.sampleFrame 9),
            .notifyNetworkChange, .flush 1060]).entries :=
  ⟨by decide +kernel, counters_of_run SignatureScheme.neutral Outbox.scripted _
    Outbox.sampleDirectory SignatureScheme.neutralKey 1000 _ rfl _
    (by unfold Tally.Fits; decide +kernel)⟩

end ResilientMessenger.Counters
