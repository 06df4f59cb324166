import Mathlib.Data.Finset.Card
import ResilientMessenger.Store.Readings

/-!
# Incoming events and their batches

Events arrive one by one or in batches, and the same event may arrive many times.  Both
calls run the loop of `ingest_server_batch`, and the loop over two lists is the loop
over the one and then over the other; so it does not matter how the events are cut.  The
first content that comes under an identifier stays.
-/

namespace ResilientMessenger.Inbox

open ResilientMessenger.ByteCodec
open ResilientMessenger.LocalDatabase
open ResilientMessenger.StoreOperations
open ResilientMessenger.Transaction

/-- One call: an event, or a batch; with the times at which the clock is read. -/
inductive Chunk where
  | single (now : ℤ) (event : IncomingEvent)
  | batch (events : List (IncomingEvent × ℤ))

def Chunk.timed : Chunk → List (IncomingEvent × ℤ)
  | .single now event => [(event, now)]
  | .batch events => events

/-- The call is not refused for its length. -/
def Chunk.Fits : Chunk → Prop
  | .single _ _ => True
  | .batch events => events.length ≤ 50

/-- The call, with the number of insertions it reports. -/
def Chunk.ingest (db : Database) : Chunk → Except CoreError ℕ × Database
  | .single now event =>
      let (result, db) := ingestServerEvent now event db
      (result.map fun inserted => if inserted then 1 else 0, db)
  | .batch events => ingestServerBatch events db

/-- The calls one after the other, with the sum of the reports. -/
def ingestChunks : List Chunk → Database → Except CoreError ℕ × Database
  | [], db => (.ok 0, db)
  | chunk :: chunks, db =>
      let (report, db) := chunk.ingest db
      let (reports, db) := ingestChunks chunks db
      ((do return (← report) + (← reports)), db)

/-- The events of a cutting, in their order. -/
def eventsOf (chunks : List Chunk) : List IncomingEvent :=
  (chunks.flatMap Chunk.timed).map Prod.fst

/-- The conversation and the ciphertext stored under an identifier. -/
def content (db : Database) (id : Id16) : Option (Id16 × Bytes) :=
  (db.inbox.lookup id).map fun row => (row.conversationId, row.eventCiphertext)

/-- The content of the first event of the list with the identifier. -/
def firstContent (events : List IncomingEvent) (id : Id16) : Option (Id16 × Bytes) :=
  (events.find? fun event => event.eventId = id).map fun event =>
    (event.conversationId, event.encryptedEvent)

/-- The identifiers of the events under which nothing is stored. -/
def newIds (db : Database) (events : List IncomingEvent) : Finset Id16 :=
  (events.map IncomingEvent.eventId).toFinset.filter fun id => content db id = none

/-! ## Cutting does not matter -/

theorem ingestLoop_report (events : List (IncomingEvent × ℤ)) (inserted : ℕ)
    (db : Database) :
    ingestLoop events inserted db =
      (inserted + (ingestLoop events 0 db).1, (ingestLoop events 0 db).2) := by
  induction events generalizing inserted db with
  | nil => rfl
  | cons entry events ih =>
      obtain ⟨event, now⟩ := entry
      simp only [ingestLoop]
      generalize db.insertOrIgnoreInbox (event.row now) = outcome
      obtain ⟨isNew, next⟩ := outcome
      cases isNew with
      | false => exact ih inserted next
      | true =>
          simp only [if_true]
          rw [ih (inserted + 1), ih (0 + 1)]
          simp only [Nat.add_assoc, Nat.zero_add]

theorem ingestLoop_append (left right : List (IncomingEvent × ℤ)) (inserted : ℕ)
    (db : Database) :
    ingestLoop (left ++ right) inserted db =
      ingestLoop right (ingestLoop left inserted db).1
        (ingestLoop left inserted db).2 := by
  induction left generalizing inserted db with
  | nil => rfl
  | cons entry left ih => exact ih _ _

/-- Each call runs the loop over its events. -/
theorem ingest_eq_loop (db : Database) {chunk : Chunk} (hfits : chunk.Fits) :
    chunk.ingest db =
      (.ok (ingestLoop chunk.timed 0 db).1, (ingestLoop chunk.timed 0 db).2) := by
  cases chunk with
  | single now event =>
      simp only [Chunk.ingest, Chunk.timed, ingestServerEvent, ingestLoop]
      cases (db.insertOrIgnoreInbox (event.row now)).1 <;> rfl
  | batch events =>
      have hshort : ¬50 < events.length := Nat.not_lt.mpr hfits
      simp only [Chunk.ingest, ingestServerBatch, if_neg hshort]
      rfl

/-- So all calls together run the loop over all events. -/
theorem ingestChunks_eq_loop {chunks : List Chunk}
    (hfits : ∀ chunk ∈ chunks, chunk.Fits) (db : Database) :
    ingestChunks chunks db =
      (.ok (ingestLoop (chunks.flatMap Chunk.timed) 0 db).1,
        (ingestLoop (chunks.flatMap Chunk.timed) 0 db).2) := by
  induction chunks generalizing db with
  | nil => rfl
  | cons chunk chunks ih =>
      have hrest : ∀ other ∈ chunks, other.Fits := by
        intro other hother
        exact hfits other (List.mem_cons_of_mem chunk hother)
      simp only [ingestChunks, ingest_eq_loop db (hfits chunk List.mem_cons_self),
        ih hrest, List.flatMap_cons, ingestLoop_append]
      rw [ingestLoop_report _ (ingestLoop chunk.timed 0 db).1]
      rfl

/-! ## What the loop stores -/

/-- An event is stored when nothing is under its identifier, and reported as new
then. -/
theorem insertOrIgnoreInbox_spec (db : Database) (event : IncomingEvent) (now : ℤ) :
    (db.insertOrIgnoreInbox (event.row now)).1 =
        decide (content db event.eventId = none) ∧
      ∀ id, content (db.insertOrIgnoreInbox (event.row now)).2 id =
        (content db id).or (firstContent [event] id) := by
  unfold Database.insertOrIgnoreInbox
  cases hinsert : db.inbox.insert? (event.row now) with
  | none =>
      have hstored : db.inbox.lookup event.eventId ≠ none :=
        Table.insert?_eq_none_iff.mp hinsert
      refine ⟨by simp [content, hstored], ?_⟩
      intro id
      by_cases hid : event.eventId = id
      · subst hid
        obtain ⟨row, hrow⟩ := Option.ne_none_iff_exists'.mp hstored
        simp [content, hrow]
      · simp [firstContent, hid]
  | some inbox =>
      have hfree : db.inbox.lookup event.eventId = none :=
        (Table.insert?_eq_some_iff.mp hinsert).1
      refine ⟨by simp [content, hfree], ?_⟩
      intro id
      have hlookup : inbox.lookup id = if id = event.eventId then some (event.row now)
          else db.inbox.lookup id := Table.lookup_insert? hinsert id
      by_cases hid : id = event.eventId
      · subst hid
        rw [if_pos rfl] at hlookup
        simp [content, hlookup, hfree, firstContent, IncomingEvent.row]
      · rw [if_neg hid] at hlookup
        simp [content, hlookup, firstContent, Ne.symm hid]

theorem firstContent_cons (event : IncomingEvent) (events : List IncomingEvent)
    (id : Id16) :
    firstContent (event :: events) id =
      (firstContent [event] id).or (firstContent events id) := by
  by_cases hid : event.eventId = id
  · simp [firstContent, hid]
  · simp [firstContent, hid]

theorem content_ingestLoop (events : List (IncomingEvent × ℤ)) (inserted : ℕ)
    (db : Database) (id : Id16) :
    content (ingestLoop events inserted db).2 id =
      (content db id).or (firstContent (events.map Prod.fst) id) := by
  induction events generalizing inserted db with
  | nil => simp [ingestLoop, firstContent]
  | cons entry events ih =>
      obtain ⟨event, now⟩ := entry
      simp only [ingestLoop]
      rw [ih, (insertOrIgnoreInbox_spec db event now).2, List.map_cons,
        firstContent_cons event (events.map Prod.fst), Option.or_assoc]

/-- Once an event is stored, its identifier is not new any more. -/
theorem newIds_insert (db : Database) (event : IncomingEvent) (now : ℤ)
    (events : List IncomingEvent) :
    newIds (db.insertOrIgnoreInbox (event.row now)).2 events =
      (newIds db events).erase event.eventId := by
  ext id
  simp only [newIds, Finset.mem_filter, Finset.mem_erase,
    (insertOrIgnoreInbox_spec db event now).2, Option.or_eq_none_iff, firstContent,
    Option.map_eq_none_iff, List.find?_singleton, ite_eq_right_iff, reduceCtorEq,
    imp_false, decide_eq_true_eq]
  tauto

theorem newIds_cons (db : Database) (event : IncomingEvent)
    (events : List IncomingEvent) :
    newIds db (event :: events) =
      if content db event.eventId = none then insert event.eventId (newIds db events)
      else newIds db events := by
  simp only [newIds, List.map_cons, List.toFinset_cons, Finset.filter_insert]

/-- The loop reports the identifiers that were new before it. -/
theorem report_ingestLoop (events : List (IncomingEvent × ℤ)) (db : Database) :
    (ingestLoop events 0 db).1 = (newIds db (events.map Prod.fst)).card := by
  induction events generalizing db with
  | nil => rfl
  | cons entry events ih =>
      obtain ⟨event, now⟩ := entry
      simp only [ingestLoop, (insertOrIgnoreInbox_spec db event now).1,
        decide_eq_true_eq, List.map_cons, newIds_cons]
      rw [ingestLoop_report, ih, newIds_insert]
      by_cases hnew : content db event.eventId = none
      · rw [if_pos hnew, if_pos hnew, ← Finset.erase_insert_eq_erase,
          Finset.card_erase_of_mem (Finset.mem_insert_self _ _)]
        have hpositive := Finset.card_pos.mpr
          ⟨_, Finset.mem_insert_self event.eventId (newIds db (events.map Prod.fst))⟩
        omega
      · have hold : event.eventId ∉ newIds db (events.map Prod.fst) := by
          simp [newIds, hnew]
        rw [if_neg hnew, if_neg hnew, Finset.erase_eq_of_notMem hold, Nat.zero_add]

/-! ## Ingesting again -/

theorem insertOrIgnoreInbox_stored {db : Database} {event : IncomingEvent}
    (hstored : content db event.eventId ≠ none) (now : ℤ) :
    db.insertOrIgnoreInbox (event.row now) = (false, db) := by
  have hlookup : db.inbox.lookup event.eventId ≠ none := by
    simpa [content] using hstored
  rw [Database.insertOrIgnoreInbox, Table.insert?_eq_none_iff.mpr hlookup]

/-- Events whose identifiers are all stored change nothing. -/
theorem ingestLoop_stored {events : List (IncomingEvent × ℤ)} {db : Database}
    (hstored : ∀ entry ∈ events, content db entry.1.eventId ≠ none) (inserted : ℕ) :
    ingestLoop events inserted db = (inserted, db) := by
  induction events with
  | nil => rfl
  | cons entry events ih =>
      obtain ⟨event, now⟩ := entry
      have hfirst := hstored (event, now) List.mem_cons_self
      simp only [ingestLoop, insertOrIgnoreInbox_stored hfirst now]
      exact ih fun other hother => hstored other (List.mem_cons_of_mem _ hother)

theorem stored_of_ingested {events : List (IncomingEvent × ℤ)} {db : Database}
    {event : IncomingEvent} (hevent : event ∈ events.map Prod.fst) :
    content (ingestLoop events 0 db).2 event.eventId ≠ none := by
  rw [content_ingestLoop, ne_eq, Option.or_eq_none_iff, not_and_or]
  right
  simp only [firstContent, Option.map_eq_none_iff, List.find?_eq_none, not_forall]
  exact ⟨event, hevent, by simp⟩

/-- However the events are cut into calls, the inbox holds the same: what was stored
stays, and otherwise the first content that came.  The reports sum to the number of new
identifiers.  Ingesting any of the events again changes nothing, and a batch of more
than 50 events is refused. -/
theorem cutting_is_irrelevant (db : Database) (chunks other : List Chunk)
    (hfits : ∀ chunk ∈ chunks, chunk.Fits) (hother : ∀ chunk ∈ other, chunk.Fits)
    (hsame : eventsOf other = eventsOf chunks) :
    let after := (ingestChunks chunks db).2
    (∀ id, content (ingestChunks other db).2 id = content after id ∧
      content after id = (content db id).or (firstContent (eventsOf chunks) id)) ∧
    (ingestChunks chunks db).1 = .ok (newIds db (eventsOf chunks)).card ∧
    (∀ event ∈ eventsOf chunks, ∀ now,
      ingestServerEvent now event after = (.ok false, after)) ∧
    (∀ again : List (IncomingEvent × ℤ), again.length ≤ 50 →
      (∀ entry ∈ again, entry.1 ∈ eventsOf chunks) →
        ingestServerBatch again after = (.ok 0, after)) ∧
    ∀ long : List (IncomingEvent × ℤ), 50 < long.length →
      ∀ stored, ingestServerBatch long stored = (.error .invalidTransition, stored) := by
  intro after
  have hloop := ingestChunks_eq_loop hfits db
  have hcontent : ∀ id, content after id =
      (content db id).or (firstContent (eventsOf chunks) id) := by
    intro id
    simp only [after, hloop, content_ingestLoop, eventsOf]
  have hstored : ∀ event ∈ eventsOf chunks, content after event.eventId ≠ none := by
    intro event hevent
    simp only [after, hloop]
    exact stored_of_ingested hevent
  refine ⟨?_, ?_, ?_, ?_, ?_⟩
  · intro id
    refine ⟨?_, hcontent id⟩
    rw [hcontent, ingestChunks_eq_loop hother]
    simp only [content_ingestLoop]
    rw [← hsame, eventsOf]
  · rw [hloop, report_ingestLoop]
    rfl
  · intro event hevent now
    rw [ingestServerEvent, insertOrIgnoreInbox_stored (hstored event hevent) now]
  · intro again hshort hentries
    have hignored : ingestLoop again 0 after = (0, after) := by
      apply ingestLoop_stored
      intro entry hentry
      exact hstored entry.1 (hentries entry hentry)
    rw [ingestServerBatch, if_neg (Nat.not_lt.mpr hshort)]
    exact transaction_of_ok (congrArg Except.ok hignored)
  · intro long hlong stored
    rw [ingestServerBatch, if_pos hlong]

/-- Three events, two of them with one identifier and different contents. -/
def sampleEvent (id body : UInt8) : IncomingEvent where
  eventId := FixedBytes.fill 16 id
  conversationId := FixedBytes.fill 16 9
  encryptedEvent := [body]

def oneByOne : List Chunk :=
  [.single 0 (sampleEvent 1 1), .single 0 (sampleEvent 2 2), .single 0 (sampleEvent 1 3)]

def inBatches : List Chunk :=
  [.batch [(sampleEvent 1 1, 0), (sampleEvent 2 2, 0)], .batch [],
    .single 0 (sampleEvent 1 3)]

theorem repeated_event_cut_twice :
    content (ingestChunks inBatches Database.initial).2 (FixedBytes.fill 16 1) =
        some (FixedBytes.fill 16 9, [1]) ∧
      (ingestChunks oneByOne Database.initial).1 = .ok 2 := by
  have hcut := cutting_is_irrelevant Database.initial oneByOne inBatches
    (by simp [oneByOne, Chunk.Fits]) (by simp [inBatches, Chunk.Fits]) rfl
  constructor
  · rw [(hcut.1 _).1, (hcut.1 _).2]
    decide +kernel
  · rw [hcut.2.1]
    decide +kernel

end ResilientMessenger.Inbox
