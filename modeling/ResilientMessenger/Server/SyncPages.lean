import ResilientMessenger.Server.GroupCursors
import ResilientMessenger.Server.Responses

/-!
# Reading events page by page

A device reads the events of one group or of all its groups, in pages that
continue after a cursor.  The two queries agree: a page over all groups is the
first page of the merged pages of the groups.  Reading on after the last cursor
of every page visits each event once.  On the wire the cursor is unsigned, in
the query it is not: half of the values a client can send are negative there
and make the query start from the beginning.
-/

namespace ResilientMessenger.SyncPages

open ResilientMessenger.ByteCodec
open ResilientMessenger.ByteReader (decodeWith)
open ResilientMessenger.Frames
open ResilientMessenger.Identity
open ResilientMessenger.Schema
open ResilientMessenger.Backend
open ResilientMessenger.Dispatch
open ResilientMessenger.Paging
open ResilientMessenger.Responses

/-! ## Events in cursor order -/

/-- The events after a cursor that have not expired. -/
def pending (now : Time) (after : ℤ) (db : Database) : List EventRow :=
  db.groupEvents.rows.filter fun row =>
    max after 0 < row.eventCursor ∧ now < row.expiresAt

/-- `event_cursor` is unique. -/
def DistinctCursors (db : Database) : Prop :=
  (db.groupEvents.rows.map EventRow.eventCursor).Nodup

section Pages

variable {now : Time} {after limit : ℤ} {db : Database}

theorem page_eq (visible : EventRow → Bool) :
    page now after limit visible db =
      pageOf EventRow.eventCursor (batchSize limit)
        ((pending now after db).filter visible) := by
  unfold page pending
  rw [List.filter_filter]
  congr 1
  apply List.filter_congr
  intro row _
  simp

theorem distinct_pending (now : Time) (after : ℤ) (hdistinct : DistinctCursors db) :
    ((pending now after db).map EventRow.eventCursor).Nodup :=
  distinct_filter _ hdistinct

/-- The page a device reads from its groups. -/
theorem syncGlobal_eq (deviceId : Id16) :
    syncGlobal now deviceId after limit db =
      (pageOf EventRow.eventCursor (batchSize limit) ((pending now after db).filter
        fun row => activeIn db deviceId row.groupId)).map SyncEvent.ofRow := by
  rw [syncGlobal, page_eq]

/-- The page a member reads from one group. -/
def groupPage (now : Time) (groupId : Id16) (after limit : ℤ) (db : Database) :
    List EventRow :=
  pageOf EventRow.eventCursor (batchSize limit)
    ((pending now after db).filter fun row => row.groupId = groupId)

theorem syncGroup_of_active {deviceId groupId : Id16}
    (hactive : activeIn db deviceId groupId = true) :
    syncGroup now deviceId groupId after limit db =
      .ok ((groupPage now groupId after limit db).map SyncEvent.ofRow) := by
  rw [syncGroup_eq_ok]
  refine ⟨hactive, ?_⟩
  rw [groupPage, eventPage, page_eq]

end Pages

/-! ## One page over all groups -/

/-- The groups in which the device is an active member. -/
def activeGroups (db : Database) (deviceId : Id16) : List Id16 :=
  (db.groupMembers.rows.filter fun member =>
    member.deviceId = deviceId ∧ member.removedAt.isNone).map MemberRow.groupId

theorem mem_activeGroups {db : Database} {deviceId groupId : Id16} :
    groupId ∈ activeGroups db deviceId ↔ activeIn db deviceId groupId = true := by
  unfold activeGroups activeIn
  rw [Option.any_eq_true, List.mem_map]
  constructor
  · rintro ⟨member, hmember, rfl⟩
    simp only [List.mem_filter, decide_eq_true_eq] at hmember
    obtain ⟨hrow, rfl, hactive⟩ := hmember
    exact ⟨member, Table.mem_rows_iff.mp hrow, hactive⟩
  · rintro ⟨member, hlookup, hactive⟩
    have hkey := Table.key_of_lookup hlookup
    simp only [MemberRow.key, Prod.mk.injEq] at hkey
    refine ⟨member, ?_, hkey.1⟩
    simp only [List.mem_filter, decide_eq_true_eq]
    exact ⟨Table.mem_of_lookup hlookup, hkey.2, hactive⟩

theorem nodup_activeGroups (db : Database) (deviceId : Id16) :
    (activeGroups db deviceId).Nodup := by
  apply List.Nodup.map_on
  · intro left hleft right hright hgroup
    simp only [List.mem_filter, decide_eq_true_eq] at hleft hright
    apply List.inj_on_of_nodup_map db.groupMembers.nodup hleft.1 hright.1
    rw [MemberRow.key, MemberRow.key, hgroup, hleft.2.1, hright.2.1]
  · exact db.groupMembers.nodup.of_map.filter _

section Merge

variable {now : Time} {deviceId : Id16} {after limit : ℤ} {db : Database}

/-- The pages of the groups put one after the other. -/
def groupPages (now : Time) (deviceId : Id16) (after limit : ℤ) (db : Database) :
    List EventRow :=
  (activeGroups db deviceId).flatMap fun groupId =>
    groupPage now groupId after limit db

theorem mem_groupPage {groupId : Id16} {row : EventRow}
    (hrow : row ∈ groupPage now groupId after limit db) :
    row ∈ pending now after db ∧ row.groupId = groupId := by
  simpa using mem_of_mem_pageOf hrow

theorem nodup_groupPages (hdistinct : DistinctCursors db) :
    (groupPages now deviceId after limit db).Nodup := by
  apply List.nodup_flatMap.mpr
  constructor
  · intro groupId _
    have hpart := distinct_filter (fun row : EventRow => row.groupId = groupId)
      (distinct_pending now after hdistinct)
    exact nodup_pageOf _ hpart.of_map
  · apply (nodup_activeGroups db deviceId).imp
    intro left right hne row hleft hright
    exact hne ((mem_groupPage hleft).2.symm.trans (mem_groupPage hright).2)

/-- Cutting the pages of the groups first loses nothing. -/
theorem page_of_groupPages (hdistinct : DistinctCursors db) :
    pageOf EventRow.eventCursor (batchSize limit)
        (groupPages now deviceId after limit db) =
      pageOf EventRow.eventCursor (batchSize limit) ((pending now after db).filter
        fun row => activeIn db deviceId row.groupId) := by
  have hvisible := distinct_filter
    (fun row : EventRow => activeIn db deviceId row.groupId)
    (distinct_pending now after hdistinct)
  apply pageOf_eq_of_subset hvisible (nodup_groupPages hdistinct)
  · intro row hrow
    obtain ⟨groupId, hgroup, hpage⟩ := List.mem_flatMap.mp hrow
    obtain ⟨hpending, rfl⟩ := mem_groupPage hpage
    exact List.mem_filter.mpr ⟨hpending, mem_activeGroups.mp hgroup⟩
  · intro row hrow
    have hactive := (List.mem_filter.mp (mem_of_mem_pageOf hrow)).2
    apply List.mem_flatMap.mpr
    refine ⟨row.groupId, mem_activeGroups.mpr hactive, ?_⟩
    have hgroup := mem_pageOf_filter (p := fun other => other.groupId = row.groupId)
      hvisible hrow (by simp)
    rw [List.filter_filter] at hgroup
    rw [groupPage]
    convert hgroup using 2
    apply List.filter_congr
    intro other _
    by_cases hsame : other.groupId = row.groupId
    · simp [hsame, hactive]
    · simp [hsame]

/-- The pages of the groups as `sync_group` answers them. -/
def answeredPage (now : Time) (after limit : ℤ) (db : Database) (groupId : Id16) :
    List SyncEvent :=
  (groupPage now groupId after limit db).map SyncEvent.ofRow

theorem flatMap_answeredPage :
    (activeGroups db deviceId).flatMap (answeredPage now after limit db) =
      (groupPages now deviceId after limit db).map SyncEvent.ofRow := by
  rw [groupPages, List.map_flatMap]
  rfl

theorem syncGlobal_eq_merged (hdistinct : DistinctCursors db) :
    syncGlobal now deviceId after limit db =
      pageOf SyncEvent.cursor (batchSize limit)
        ((activeGroups db deviceId).flatMap (answeredPage now after limit db)) := by
  rw [flatMap_answeredPage, pageOf_map]
  change _ = (pageOf EventRow.eventCursor (batchSize limit)
    (groupPages now deviceId after limit db)).map SyncEvent.ofRow
  rw [page_of_groupPages hdistinct, syncGlobal_eq]

theorem mem_syncGlobal {event : SyncEvent}
    (hevent : event ∈ syncGlobal now deviceId after limit db) :
    ∃ row ∈ db.groupEvents.rows, SyncEvent.ofRow row = event ∧
      activeIn db deviceId row.groupId = true := by
  rw [syncGlobal_eq] at hevent
  obtain ⟨row, hrow, rfl⟩ := List.mem_map.mp hevent
  obtain ⟨hpending, hactive⟩ := List.mem_filter.mp (mem_of_mem_pageOf hrow)
  exact ⟨row, List.mem_of_mem_filter hpending, rfl, hactive⟩

/-- No event is on the page twice. -/
theorem nodup_syncGlobal :
    ((syncGlobal now deviceId after limit db).map SyncEvent.eventId).Nodup := by
  rw [syncGlobal_eq, List.map_map]
  apply List.Nodup.map_on
  · intro left hleft right hright hid
    have hstored {row : EventRow} (hrow : row ∈ pageOf EventRow.eventCursor
        (batchSize limit) ((pending now after db).filter
          fun row => activeIn db deviceId row.groupId)) :
        row ∈ db.groupEvents.rows :=
      List.mem_of_mem_filter (List.mem_of_mem_filter (mem_of_mem_pageOf hrow))
    exact List.inj_on_of_nodup_map db.groupEvents.nodup (hstored hleft)
      (hstored hright) hid
  · apply nodup_pageOf
    exact (db.groupEvents.nodup.of_map.filter _).filter _

end Merge

/-- What a device reads from all its groups is the beginning of the merged pages
of the groups, without events of other groups and without repetitions. -/
theorem sync_global_merges_groups (now : Time) (deviceId : Id16) (after limit : ℤ)
    (db : Database) (hdistinct : DistinctCursors db) :
    (∃ pages : Id16 → List SyncEvent,
      (∀ groupId, activeIn db deviceId groupId = true →
        syncGroup now deviceId groupId after limit db = .ok (pages groupId)) ∧
      syncGlobal now deviceId after limit db =
        pageOf SyncEvent.cursor (batchSize limit)
          ((activeGroups db deviceId).flatMap pages)) ∧
      (∀ row ∈ db.groupEvents.rows, activeIn db deviceId row.groupId = false →
        row.eventId ∉ (syncGlobal now deviceId after limit db).map
          SyncEvent.eventId) ∧
      ((syncGlobal now deviceId after limit db).map SyncEvent.eventId).Nodup := by
  refine ⟨⟨answeredPage now after limit db, ?_, syncGlobal_eq_merged hdistinct⟩, ?_,
    nodup_syncGlobal⟩
  · intro groupId hactive
    exact syncGroup_of_active hactive
  · intro row hrow hinactive hshown
    obtain ⟨event, hevent, hid⟩ := List.mem_map.mp hshown
    obtain ⟨other, hother, rfl, hactive⟩ := mem_syncGlobal hevent
    have hsame : other = row :=
      List.inj_on_of_nodup_map db.groupEvents.nodup hother hrow hid
    rw [hsame, hinactive] at hactive
    cases hactive

/-- The founder of the sample group reads both of its events. -/
theorem two_events_merged :
    ∃ pages : Id16 → List SyncEvent,
      syncGlobal 0 (FixedBytes.fill 16 3) 0 50 GroupCursors.twoEvents =
        pageOf SyncEvent.cursor (batchSize 50)
          ((activeGroups GroupCursors.twoEvents (FixedBytes.fill 16 3)).flatMap
            pages) ∧
      (syncGlobal 0 (FixedBytes.fill 16 3) 0 50 GroupCursors.twoEvents).length = 2 := by
  have hdistinct : DistinctCursors GroupCursors.twoEvents := by
    unfold DistinctCursors
    decide +kernel
  obtain ⟨⟨pages, -, hmerged⟩, -⟩ := sync_global_merges_groups 0
    (FixedBytes.fill 16 3) 0 50 GroupCursors.twoEvents hdistinct
  exact ⟨pages, hmerged, by decide +kernel⟩

/-! ## Reading on until a page is empty -/

/-- Call `sync_group` after the last cursor of the previous page until a page is
empty, with a limit of its own for every call.  The answer is `none` when the
calls do not suffice or one of them fails. -/
def readAll (now : Time) (deviceId groupId : Id16) (db : Database) :
    (calls : ℕ) → (limits : ℕ → ℤ) → (after : ℤ) → Option (List SyncEvent)
  | 0, _, _ => none
  | calls + 1, limits, after =>
      match syncGroup now deviceId groupId after (limits 0) db with
      | .error _ => none
      | .ok events =>
          match events.getLast? with
          | none => some []
          | some last =>
              (readAll now deviceId groupId db calls (fun call => limits (call + 1))
                last.cursor).map fun later => events ++ later

/-- The unexpired events of a group after a cursor, in cursor order. -/
def unread (now : Time) (groupId : Id16) (after : ℤ) (db : Database) :
    List EventRow :=
  inOrder EventRow.eventCursor
    (db.groupEvents.rows.filter fun row =>
      row.groupId = groupId ∧ max after 0 < row.eventCursor ∧ now < row.expiresAt)

section Reading

variable {now : Time} {deviceId groupId : Id16} {after limit : ℤ} {db : Database}

theorem groupPage_eq_take :
    groupPage now groupId after limit db =
      (unread now groupId after db).take (batchSize limit) := by
  rw [groupPage, unread, pageOf_eq_take, pending, List.filter_filter]
  congr 2
  apply List.filter_congr
  intro row _
  simp

theorem mem_unread {row : EventRow} :
    row ∈ unread now groupId after db ↔
      row ∈ db.groupEvents.rows ∧ row.groupId = groupId ∧
        max after 0 < row.eventCursor ∧ now < row.expiresAt := by
  rw [unread, mem_inOrder]
  simp

theorem strict_unread (hdistinct : DistinctCursors db) :
    (unread now groupId after db).Pairwise fun left right =>
      left.eventCursor < right.eventCursor :=
  strict_inOrder (distinct_filter _ hdistinct)

theorem batchSize_pos (limit : ℤ) : 0 < batchSize limit := by
  unfold batchSize
  omega

/-- The events after the last one of a page are those the page left out. -/
theorem unread_after_last (hdistinct : DistinctCursors db) {last : EventRow}
    (hlast : (groupPage now groupId after limit db).getLast? = some last) :
    unread now groupId last.eventCursor db =
      (unread now groupId after db).drop (batchSize limit) := by
  have hmem := (mem_unread.mp (List.mem_of_mem_take (groupPage_eq_take ▸
    List.mem_of_getLast? hlast))).2.2.1
  rw [groupPage_eq_take] at hlast
  rw [← filter_after_last (strict_unread hdistinct) hlast, unread, unread,
    ← inOrder_filter _ (distinct_filter _ hdistinct), List.filter_filter]
  congr 1
  apply List.filter_congr
  intro row _
  have hcursor : max last.eventCursor 0 = last.eventCursor := by omega
  rw [hcursor]
  by_cases hlater : last.eventCursor < row.eventCursor
  · have hbeyond : max after 0 < row.eventCursor := by omega
    simp [hlater, hbeyond]
  · simp [hlater]

/-- One more call than there are events suffices. -/
theorem readAll_eq (hdistinct : DistinctCursors db)
    (hactive : activeIn db deviceId groupId = true) {calls : ℕ} (limits : ℕ → ℤ)
    (hcalls : (unread now groupId after db).length < calls) :
    readAll now deviceId groupId db calls limits after =
      some ((unread now groupId after db).map SyncEvent.ofRow) := by
  induction calls generalizing limits after with
  | zero => exact absurd hcalls (Nat.not_lt_zero _)
  | succ calls ih =>
      rw [readAll, syncGroup_of_active hactive]
      dsimp only
      rw [List.getLast?_map]
      cases hlast : (groupPage now groupId after (limits 0) db).getLast? with
      | none =>
          have hempty : unread now groupId after db = [] := by
            rw [List.getLast?_eq_none_iff, groupPage_eq_take,
              List.take_eq_nil_iff] at hlast
            exact hlast.resolve_left (batchSize_pos _).ne'
          simp [hempty]
      | some last =>
          have hlater := unread_after_last hdistinct hlast
          have hpage : groupPage now groupId after (limits 0) db ≠ [] := by
            intro hempty
            rw [hempty] at hlast
            cases hlast
          have hshorter : (unread now groupId last.eventCursor db).length < calls := by
            rw [groupPage_eq_take] at hpage
            have hlength := List.length_pos_iff.mpr
              (fun hempty => hpage (by rw [hempty, List.take_nil]) :
                unread now groupId after db ≠ [])
            have hsize := batchSize_pos (limits 0)
            rw [hlater, List.length_drop]
            omega
          simp only [Option.map_some]
          rw [show (SyncEvent.ofRow last).cursor = last.eventCursor from rfl,
            ih (fun call => limits (call + 1)) hshorter, hlater, Option.map_some,
            groupPage_eq_take, ← List.map_append, List.take_append_drop]

end Reading

/-- Reading on until a page is empty ends, whatever the limits are, and returns
the unexpired events of the group after the start, each once and in strictly
ascending order of their cursors. -/
theorem reading_on_is_complete (now : Time) (deviceId groupId : Id16)
    (limits : ℕ → ℤ) (start : ℤ) (db : Database) (hdistinct : DistinctCursors db)
    (hactive : activeIn db deviceId groupId = true) :
    ∃ rows : List EventRow,
      (∀ calls, rows.length < calls →
        readAll now deviceId groupId db calls limits start =
          some (rows.map SyncEvent.ofRow)) ∧
      (∀ row, row ∈ rows ↔ row ∈ db.groupEvents.rows ∧ row.groupId = groupId ∧
        max start 0 < row.eventCursor ∧ now < row.expiresAt) ∧
      rows.Pairwise fun left right => left.eventCursor < right.eventCursor :=
  ⟨unread now groupId start db,
    fun _ hcalls => readAll_eq hdistinct hactive limits hcalls,
    fun _ => mem_unread, strict_unread hdistinct⟩

/-- With limits below one every page has one event. -/
theorem two_events_read_on :
    ∃ rows : List EventRow, (CursorVisibility.sampleEvent 2).row 0 2 ∈ rows ∧
      ∀ calls, rows.length < calls →
        readAll 0 (FixedBytes.fill 16 3) (FixedBytes.fill 16 5)
          GroupCursors.twoEvents calls (fun _ => -7) (-1) =
            some (rows.map SyncEvent.ofRow) := by
  have hdistinct : DistinctCursors GroupCursors.twoEvents := by
    unfold DistinctCursors
    decide +kernel
  obtain ⟨rows, hread, hrows, -⟩ := reading_on_is_complete 0 (FixedBytes.fill 16 3)
    (FixedBytes.fill 16 5) (fun _ => -7) (-1) GroupCursors.twoEvents hdistinct
    (by decide +kernel)
  exact ⟨rows, (hrows _).mpr (by decide +kernel), hread⟩

/-! ## Cursors on the wire -/

/-- The body of a request for events after a cursor, of one group or of all. -/
def eventsBody (token : Id32) (groupId : Option Id16) (after : UInt64)
    (limit : UInt8) : Bytes :=
  token.toList ++
    (groupId.elim [1] (fun groupId => 0 :: groupId.toList) ++
      (toBigEndian 8 after.toNat ++ [limit]))

structure WireEvent where
  cursor : ℕ
  eventId : Id16
  eventKind : ℤ
  ciphertext : Bytes
  deriving DecidableEq

/-- An event of a batch as its receiver reads it. -/
def WireEvent.reader : Body WireEvent := do
  let cursor ← Body.u64
  let eventId ← Body.array 16
  let eventKind ← Body.i16
  let length ← ByteReader.word .invalidInput 4
  let ciphertext ← ByteReader.take .invalidInput length
  pure ⟨cursor, eventId, eventKind, ciphertext⟩

def readEvents : ℕ → Body (List WireEvent)
  | 0 => pure []
  | count + 1 => do
      let first ← WireEvent.reader
      let others ← readEvents count
      pure (first :: others)

/-- The events of a batch: operation octet, number of events, events. -/
def readBatch : Body (List WireEvent) := do
  let _operation ← Body.u8
  let count ← Body.u8
  let events ← readEvents count.toNat
  Body.finish
  pure events

/-- Every event of the answer has a cursor above the one the request named. -/
def BatchAhead (crypto : Crypto) (moment : Moment) (frame : TransportFrame)
    (after : UInt64) (db : Database) : Prop :=
  ∀ response, (dispatch crypto moment frame db).1 = .ok response →
    ∃ batch, decodeWith readBatch response.body = .ok batch ∧
      ∀ event ∈ batch, after.toNat < event.cursor

/-- `event_cursor` is a `BIGINT`, and the length of `ciphertext` is checked. -/
def ColumnsFit (db : Database) : Prop :=
  ∀ row ∈ db.groupEvents.rows,
    row.eventCursor < 2 ^ 63 ∧ row.ciphertext.length ≤ 65536

/-- The device has nothing to read in the scope of the request. -/
def NothingToRead (now : Time) (deviceId : Id16) (groupId : Option Id16)
    (db : Database) : Prop :=
  ∀ row ∈ db.groupEvents.rows, (∀ scope ∈ groupId, row.groupId = scope) →
    activeIn db deviceId row.groupId = true → 0 < row.eventCursor →
      row.expiresAt ≤ now

/-- An event as it is written. -/
def onWire (event : SyncEvent) : WireEvent where
  cursor := unsigned 64 event.cursor
  eventId := event.eventId
  eventKind := signed 16 (unsigned 16 event.eventKind)
  ciphertext := event.ciphertext

theorem read_encodeEvent {event : SyncEvent} (hlength : event.ciphertext.length < 2 ^ 32)
    (unread : Bytes) :
    WireEvent.reader (encodeEvent event ++ unread) = .ok (onWire event, unread) := by
  simp only [WireEvent.reader, Body.u64, Body.array, Body.i16, ByteReader.bind_eq_ok,
    ByteReader.word_eq_ok, ByteReader.array_eq_ok, ByteReader.take_eq_ok,
    ByteReader.pure_eq_ok, encodeEvent, List.append_assoc]
  exact ⟨_, _, ⟨unsigned_lt 64 _, rfl⟩, _, _, rfl, _, _,
    ⟨_, _, ⟨unsigned_lt 16 _, rfl⟩, rfl⟩, _, _, ⟨hlength, rfl⟩, _, _, ⟨rfl, rfl⟩, rfl⟩

theorem read_encodeEvents (events : List SyncEvent)
    (hlengths : ∀ event ∈ events, event.ciphertext.length < 2 ^ 32) :
    readEvents events.length (events.flatMap encodeEvent) =
      .ok (events.map onWire, []) := by
  induction events with
  | nil => rfl
  | cons event events ih =>
      rw [List.length_cons, readEvents, ByteReader.bind_eq_ok]
      refine ⟨onWire event, events.flatMap encodeEvent, ?_, ?_⟩
      · exact read_encodeEvent (hlengths event List.mem_cons_self) _
      · rw [ByteReader.bind_eq_ok]
        exact ⟨_, _, ih fun other hother => hlengths other
          (List.mem_cons_of_mem event hother), rfl⟩

section Wire

variable {crypto : Crypto} {moment : Moment} {frame : TransportFrame} {token : Id32}
variable {groupId : Option Id16} {after : UInt64} {limit : UInt8} {db : Database}

/-- The rows a request for events selects. -/
def requested (now : Time) (deviceId : Id16) (groupId : Option Id16) (after : UInt64)
    (limit : UInt8) (db : Database) : List EventRow :=
  eventPage now deviceId groupId (signed 64 after.toNat) limit.toNat db

theorem read_eventsBody :
    decodeWith SyncRequest.reader (groupId.elim [1] (fun groupId =>
        0 :: groupId.toList) ++ (toBigEndian 8 after.toNat ++ [limit])) =
      .ok (.events groupId (signed 64 after.toNat) limit.toNat) := by
  have hafter : after.toNat < 256 ^ 8 := after.toNat_lt
  apply ByteReader.decodeWith_eq_ok.mpr
  refine ⟨[], ?_⟩
  simp only [SyncRequest.reader, Body.u8, ByteReader.bind_eq_ok, ByteReader.byte_eq_ok]
  cases groupId with
  | none =>
      refine ⟨1, _, rfl, ?_⟩
      simp only [Body.u64, Body.finish, ByteReader.bind_eq_ok,
        ByteReader.word_eq_ok, ByteReader.byte_eq_ok, ByteReader.finish_eq_ok,
        ByteReader.pure_eq_ok]
      exact ⟨_, _, ⟨hafter, rfl⟩, _, _, rfl, (), _, ⟨rfl, rfl⟩, rfl⟩
  | some groupId =>
      refine ⟨0, _, rfl, ?_⟩
      simp only [Body.array, Body.u64, Body.finish, ByteReader.bind_eq_ok,
        ByteReader.array_eq_ok, ByteReader.word_eq_ok, ByteReader.byte_eq_ok,
        ByteReader.finish_eq_ok, ByteReader.pure_eq_ok]
      exact ⟨_, _, rfl, _, _, ⟨hafter, rfl⟩, _, _, rfl, (), _, ⟨rfl, rfl⟩, rfl⟩

theorem performSync_requested {now : Time} {deviceId : Id16} {answer : Bytes} :
    (performSync now deviceId
        (.events groupId (signed 64 after.toNat) limit.toNat) db).1 = .ok answer ↔
      (∀ scope ∈ groupId, activeIn db deviceId scope = true) ∧
        answer = (if groupId.isSome then 0 else 1) ::
          UInt8.ofNat (requested now deviceId groupId after limit db).length ::
            ((requested now deviceId groupId after limit db).map
              SyncEvent.ofRow).flatMap encodeEvent := by
  simp only [performSync, reading_fst_eq_ok]
  cases groupId with
  | none =>
      constructor
      · rintro ⟨events, hevents, hanswer⟩
        cases hevents
        cases hanswer
        refine ⟨by simp, ?_⟩
        simp only [syncGlobal, List.length_map]
        rfl
      · rintro ⟨-, rfl⟩
        refine ⟨_, rfl, ?_⟩
        simp only [syncGlobal, List.length_map]
        rfl
  | some scope =>
      constructor
      · rintro ⟨events, hevents, hanswer⟩
        obtain ⟨hactive, rfl⟩ := syncGroup_eq_ok.mp hevents
        cases hanswer
        refine ⟨by simpa using hactive, ?_⟩
        rw [List.length_map]
        rfl
      · rintro ⟨hactive, rfl⟩
        refine ⟨_, syncGroup_eq_ok.mpr ⟨hactive scope rfl, rfl⟩, ?_⟩
        rw [List.length_map]
        rfl

/-- The answer to a request for events. -/
theorem dispatch_events (hkind : frame.kind = .syncRequest)
    (hbody : frame.body = eventsBody token groupId after limit)
    {response : TransportFrame} :
    (dispatch crypto moment frame db).1 = .ok response ↔
      ∃ deviceId, authenticateAccess crypto moment.now token db = .ok deviceId ∧
        (∀ scope ∈ groupId, activeIn db deviceId scope = true) ∧
        response = ⟨1, .syncBatch, frame.clientMessageId, 0,
          (if groupId.isSome then 0 else 1) ::
            UInt8.ofNat (requested moment.now deviceId groupId after limit db).length ::
              ((requested moment.now deviceId groupId after limit db).map
                SyncEvent.ofRow).flatMap encodeEvent⟩ := by
  have htoken : Body.array 32 (eventsBody token groupId after limit) = .ok (token,
      groupId.elim [1] (fun groupId => 0 :: groupId.toList) ++
        (toBigEndian 8 after.toNat ++ [limit])) :=
    ByteReader.array_eq_ok.mpr rfl
  have hroute : route crypto moment frame =
      some (.syncBatch, syncRequest crypto moment.now frame.body) := by
    rw [route, hkind]
  rw [dispatch_fst_eq_ok, hroute, hbody]
  constructor
  · rintro ⟨kind, handler, answer, hhandler, hanswer, rfl⟩
    cases hhandler
    obtain ⟨found, unread, deviceId, request, hfound, hdevice, hrequest, hsync⟩ :=
      syncRequest_fst_eq_ok.mp hanswer
    rw [htoken] at hfound
    cases hfound
    rw [read_eventsBody] at hrequest
    cases hrequest
    obtain ⟨hactive, rfl⟩ := performSync_requested.mp hsync
    exact ⟨deviceId, hdevice, hactive, rfl⟩
  · rintro ⟨deviceId, hdevice, hactive, rfl⟩
    refine ⟨_, _, _, rfl, syncRequest_fst_eq_ok.mpr ⟨_, _, deviceId, _, htoken, hdevice,
      read_eventsBody, performSync_requested.mpr ⟨hactive, rfl⟩⟩, rfl⟩

theorem mem_requested {now : Time} {deviceId : Id16} {row : EventRow}
    (hactive : ∀ scope ∈ groupId, activeIn db deviceId scope = true)
    (hrow : row ∈ requested now deviceId groupId after limit db) :
    row ∈ db.groupEvents.rows ∧ (∀ scope ∈ groupId, row.groupId = scope) ∧
      activeIn db deviceId row.groupId = true ∧
      max (signed 64 after.toNat) 0 < row.eventCursor ∧ now < row.expiresAt := by
  cases groupId with
  | none => simpa using mem_of_mem_pageOf hrow
  | some scope =>
      have hmem := mem_of_mem_pageOf hrow
      simp only [List.mem_filter, decide_eq_true_eq] at hmem
      obtain ⟨hstored, rfl, hvisible⟩ := hmem
      exact ⟨hstored, by simp, hactive _ rfl, hvisible⟩

theorem length_requested (now : Time) (deviceId : Id16) :
    (requested now deviceId groupId after limit db).length < 256 := by
  have hsize : batchSize limit.toNat ≤ 50 := by
    unfold batchSize maxSyncBatch
    omega
  have hpage : (requested now deviceId groupId after limit db).length ≤
      batchSize limit.toNat := by
    cases groupId with
    | none => exact List.length_take_le _ _
    | some scope => exact List.length_take_le _ _
  omega

/-- A batch of at most 50 events reads back as it was written. -/
theorem read_requested (hcolumns : ColumnsFit db) {now : Time} {deviceId : Id16}
    (hactive : ∀ scope ∈ groupId, activeIn db deviceId scope = true)
    (operation : UInt8) :
    decodeWith readBatch (operation ::
        UInt8.ofNat (requested now deviceId groupId after limit db).length ::
          ((requested now deviceId groupId after limit db).map
            SyncEvent.ofRow).flatMap encodeEvent) =
      .ok ((requested now deviceId groupId after limit db).map fun row =>
        onWire (SyncEvent.ofRow row)) := by
  have hlengths : ∀ event ∈ (requested now deviceId groupId after limit db).map
      SyncEvent.ofRow, event.ciphertext.length < 2 ^ 32 := by
    intro event hevent
    obtain ⟨row, hrow, rfl⟩ := List.mem_map.mp hevent
    exact (hcolumns row (mem_requested hactive hrow).1).2.trans_lt (by norm_num)
  have hevents := read_encodeEvents _ hlengths
  rw [List.length_map, List.map_map] at hevents
  apply ByteReader.decodeWith_eq_ok.mpr
  refine ⟨[], ?_⟩
  simp only [readBatch, Body.u8, Body.finish, ByteReader.bind_eq_ok,
    ByteReader.byte_eq_ok, ByteReader.finish_eq_ok, ByteReader.pure_eq_ok]
  refine ⟨operation, _, rfl, _, _, rfl, _, [], ?_, (), [], ⟨rfl, rfl⟩, rfl⟩
  rw [UInt8.toNat_ofNat', Nat.mod_eq_of_lt (length_requested now deviceId)]
  exact hevents

/-- All that a batch shows has a cursor above the requested one. -/
theorem batchAhead_iff_requested (hcolumns : ColumnsFit db)
    (hkind : frame.kind = .syncRequest)
    (hbody : frame.body = eventsBody token groupId after limit) :
    BatchAhead crypto moment frame after db ↔
      ∀ deviceId, authenticateAccess crypto moment.now token db = .ok deviceId →
        (∀ scope ∈ groupId, activeIn db deviceId scope = true) →
          ∀ row ∈ requested moment.now deviceId groupId after limit db,
            after.toNat < unsigned 64 row.eventCursor := by
  unfold BatchAhead
  constructor
  · intro hahead deviceId hdevice hactive row hrow
    obtain ⟨batch, hread, hbatch⟩ := hahead _
      ((dispatch_events hkind hbody).mpr ⟨deviceId, hdevice, hactive, rfl⟩)
    rw [read_requested hcolumns hactive] at hread
    cases hread
    exact hbatch _ (List.mem_map_of_mem hrow)
  · intro hahead response hresponse
    obtain ⟨deviceId, hdevice, hactive, rfl⟩ :=
      (dispatch_events hkind hbody).mp hresponse
    refine ⟨_, read_requested hcolumns hactive _, ?_⟩
    intro event hevent
    obtain ⟨row, hrow, rfl⟩ := List.mem_map.mp hevent
    exact hahead deviceId hdevice hactive row hrow

/-- A cursor above zero is written as it is. -/
theorem unsigned_cursor {cursor : ℤ} (hpositive : 0 < cursor)
    (hbound : cursor < 2 ^ 63) : (unsigned 64 cursor : ℤ) = cursor := by
  unfold unsigned
  rw [Int.emod_eq_of_lt hpositive.le (by omega), Int.toNat_of_nonneg hpositive.le]

/-- Something to read in the scope of a negative cursor is on its page. -/
theorem requested_ne_nil {now : Time} {deviceId : Id16} {row : EventRow}
    (hnegative : signed 64 after.toNat ≤ 0) (hrow : row ∈ db.groupEvents.rows)
    (hscope : ∀ scope ∈ groupId, row.groupId = scope)
    (hactive : activeIn db deviceId row.groupId = true)
    (hpositive : 0 < row.eventCursor) (hlive : now < row.expiresAt) :
    requested now deviceId groupId after limit db ≠ [] := by
  have hcursor : max (signed 64 after.toNat) 0 < row.eventCursor := by omega
  have hpage (rows : List EventRow) (hmem : row ∈ rows) :
      pageOf EventRow.eventCursor (batchSize limit.toNat) rows ≠ [] := by
    rw [pageOf_eq_take, Ne, List.take_eq_nil_iff, not_or]
    exact ⟨(batchSize_pos _).ne', List.ne_nil_of_mem (mem_inOrder.mpr hmem)⟩
  cases groupId with
  | none =>
      apply hpage
      simp only [List.mem_filter, decide_eq_true_eq]
      exact ⟨hrow, hactive, hcursor, hlive⟩
  | some scope =>
      apply hpage
      simp only [List.mem_filter, decide_eq_true_eq]
      exact ⟨hrow, hscope scope rfl, hcursor, hlive⟩

end Wire

/-- The events of a batch are above the requested cursor exactly when that is
below 2 ^ 63, or there is nothing to read. -/
theorem batch_ahead_iff (crypto : Crypto) (moment : Moment) (frame : TransportFrame)
    (token : Id32) (groupId : Option Id16) (after : UInt64) (limit : UInt8)
    (db : Database) (hcolumns : ColumnsFit db) (hkind : frame.kind = .syncRequest)
    (hbody : frame.body = eventsBody token groupId after limit) :
    BatchAhead crypto moment frame after db ↔
      after.toNat < 2 ^ 63 ∨
        ∀ deviceId, authenticateAccess crypto moment.now token db = .ok deviceId →
          NothingToRead moment.now deviceId groupId db := by
  rw [batchAhead_iff_requested hcolumns hkind hbody]
  by_cases hsmall : after.toNat < 2 ^ 63
  · refine iff_of_true ?_ (.inl hsmall)
    intro deviceId hdevice hactive row hrow
    obtain ⟨hstored, -, -, hcursor, -⟩ := mem_requested hactive hrow
    rw [signed, if_pos hsmall] at hcursor
    have hwire := unsigned_cursor (by omega) (hcolumns row hstored).1
    omega
  · have hnegative : signed 64 after.toNat < 0 := by
      have hlt := after.toNat_lt
      rw [signed, if_neg hsmall]
      omega
    rw [or_iff_right hsmall]
    constructor
    · intro hahead deviceId hdevice row hrow hscope hactive hpositive
      by_contra hlive
      obtain ⟨shown, hshown⟩ := List.exists_mem_of_ne_nil _ (requested_ne_nil
        hnegative.le hrow hscope hactive hpositive (not_le.mp hlive))
      have hscopes : ∀ scope ∈ groupId, activeIn db deviceId scope = true := by
        intro scope hmem
        rw [← hscope scope hmem]
        exact hactive
      have habove := hahead deviceId hdevice hscopes shown hshown
      obtain ⟨hstored, -, -, hcursor, -⟩ := mem_requested hscopes hshown
      have hbound := (hcolumns shown hstored).1
      have hwire := unsigned_cursor (by omega) hbound
      omega
    · intro hnothing deviceId hdevice hactive row hrow
      obtain ⟨hstored, hscope, hmember, hcursor, hlive⟩ := mem_requested hactive hrow
      have hexpired := hnothing deviceId hdevice row hstored hscope hmember (by omega)
      exact absurd hlive (not_lt.mpr hexpired)

/-- A request of the founder for the events of all groups. -/
def readingFrame (after : UInt64) : TransportFrame where
  version := 1
  kind := .syncRequest
  clientMessageId := FixedBytes.fill 16 9
  ttlSeconds := 60
  body := eventsBody (FixedBytes.fill 32 0) none after 50

theorem columnsFit_twoEvents : ColumnsFit GroupCursors.twoEvents := by
  unfold ColumnsFit
  decide +kernel

theorem small_cursor_ahead :
    BatchAhead Redelivery.sampleCrypto Redelivery.sampleMoment (readingFrame 1) 1
      GroupCursors.twoEvents :=
  (batch_ahead_iff Redelivery.sampleCrypto Redelivery.sampleMoment (readingFrame 1)
    (FixedBytes.fill 32 0) none 1 50 GroupCursors.twoEvents columnsFit_twoEvents rfl
    rfl).mpr (.inl (by decide))

/-- The largest cursor a client can send reads everything once more. -/
theorem largest_cursor_reads_again :
    ¬BatchAhead Redelivery.sampleCrypto Redelivery.sampleMoment
      (readingFrame 18446744073709551615) 18446744073709551615
      GroupCursors.twoEvents := by
  intro hahead
  rw [batchAhead_iff_requested columnsFit_twoEvents rfl rfl] at hahead
  have habove := hahead (FixedBytes.fill 16 3) (by decide +kernel) (by simp)
    ((CursorVisibility.sampleEvent 1).row 0 1) (by decide +kernel)
  exact absurd habove (by decide +kernel)

end ResilientMessenger.SyncPages
