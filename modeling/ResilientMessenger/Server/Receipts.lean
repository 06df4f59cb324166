import ResilientMessenger.Server.Sessions

/-!
# Receipts

A device reports what it was delivered or has read, in batches that name events
by their ids.  The batches may repeat events, name unknown ones and be sent again
after a lost answer.  `receipts_exact` says what the table holds after any run:
the receipts that a signed-in, active member reported for an event that was
stored then and has been stored ever since.
-/

namespace ResilientMessenger.Receipts

open ResilientMessenger.ByteCodec
open ResilientMessenger.ByteReader (decodeWith bind_eq_ok ensure_eq_ok pure_eq_ok)
open ResilientMessenger.Frames
open ResilientMessenger.Identity
open ResilientMessenger.Schema
open ResilientMessenger.Backend
open ResilientMessenger.Dispatch
open ResilientMessenger.Calls
open ResilientMessenger.Effects
open ResilientMessenger.EventProvenance (cleanupExpiredEvents)
open ResilientMessenger.RequestedCalls
open ResilientMessenger.Sessions (Label step)
open ResilientMessenger.Runs

/-- The event is stored and the device is an active member of its group. -/
def Receivable (db : Database) (deviceId eventId : Id16) : Prop :=
  ∃ event, db.groupEvents.lookup eventId = some event ∧
    activeIn db deviceId event.groupId = true

/-- The frame that carries receipts of a type. -/
def CarriesType (kind : FrameType) (receiptType : ℤ) : Prop :=
  kind = .deliveryReceiptBatch ∧ receiptType = 1 ∨
    kind = .readReceiptBatch ∧ receiptType = 2

/-- The label is a request that reports the receipt for the device it comes from. -/
def Reports (crypto : Crypto) (row : ReceiptRow) (db : Database) : Label → Prop
  | .request request => ∃ unread eventIds,
      CarriesType request.frame.kind row.receiptType ∧
      signedIn crypto request.moment.now request.frame.body db =
        some (row.deviceId, unread) ∧
      decodeWith receiptReader unread = .ok eventIds ∧ row.eventId ∈ eventIds ∧
      Receivable db row.deviceId row.eventId
  | _ => False

def Stored (row : ReceiptRow) (db : Database) : Prop :=
  (db.groupEvents.lookup row.eventId).isSome = true

/-! ## Recording a batch -/

section Recording

variable {deviceId : Id16} {receiptType : ℤ} {row : ReceiptRow}

/-- A receipt that is already there is not inserted again, so that afterwards the
table holds it either way. -/
theorem mem_recordReceipt (inserted : ℕ) (db : Database) (eventId : Id16) :
    row ∈ (recordReceipt deviceId receiptType (inserted, db) eventId).2.messageReceipts.rows ↔
      row ∈ db.messageReceipts.rows ∨
        row = ⟨eventId, deviceId, receiptType⟩ ∧ Receivable db deviceId eventId := by
  unfold recordReceipt Receivable
  dsimp only
  cases hevent : db.groupEvents.lookup eventId with
  | none => simp
  | some event =>
      by_cases hactive : activeIn db deviceId event.groupId = true
      · simp only [hactive, if_true, Option.some.injEq, exists_eq_left', and_true]
        cases hinsert : db.messageReceipts.insert? ⟨eventId, deviceId, receiptType⟩ with
        | none =>
            have htaken := Table.insert?_eq_none_iff.mp hinsert
            obtain ⟨found, hfound⟩ := Option.ne_none_iff_exists'.mp htaken
            have hmem := Table.mem_of_lookup hfound
            rw [show found = ⟨eventId, deviceId, receiptType⟩ from
              Table.key_of_lookup hfound] at hmem
            constructor
            · exact .inl
            · rintro (hold | rfl)
              · exact hold
              · exact hmem
        | some messageReceipts =>
            rw [(Table.insert?_eq_some_iff.mp hinsert).2, List.mem_append,
              List.mem_singleton]
      · simp [hactive]

theorem recordReceipt_keeps (deviceId : Id16) (receiptType : ℤ)
    (progress : ℕ × Database) (eventId : Id16) :
    (recordReceipt deviceId receiptType progress eventId).2.groupEvents =
        progress.2.groupEvents ∧
      (recordReceipt deviceId receiptType progress eventId).2.groupMembers =
        progress.2.groupMembers := by
  obtain ⟨inserted, messageReceipts, hrecord⟩ :=
    recordReceipt_eq deviceId receiptType progress eventId
  rw [hrecord]
  exact ⟨rfl, rfl⟩

theorem receivable_congr {db next : Database} {eventId : Id16}
    (hevents : next.groupEvents = db.groupEvents)
    (hmembers : next.groupMembers = db.groupMembers) :
    Receivable next deviceId eventId ↔ Receivable db deviceId eventId := by
  unfold Receivable activeIn
  rw [hevents, hmembers]

/-- The batch adds the receivable events it names, however often and in whatever
order it names them. -/
theorem mem_recordReceipts (eventIds : List Id16) (progress : ℕ × Database) :
    row ∈ (eventIds.foldl (recordReceipt deviceId receiptType) progress).2.messageReceipts.rows ↔
      row ∈ progress.2.messageReceipts.rows ∨
        row.deviceId = deviceId ∧ row.receiptType = receiptType ∧
          row.eventId ∈ eventIds ∧ Receivable progress.2 deviceId row.eventId := by
  induction eventIds generalizing progress with
  | nil => simp
  | cons eventId eventIds ih =>
      obtain ⟨hevents, hmembers⟩ :=
        recordReceipt_keeps deviceId receiptType progress eventId
      rw [List.foldl_cons, ih, receivable_congr hevents hmembers,
        mem_recordReceipt progress.1 progress.2 eventId]
      obtain ⟨rowEvent, rowDevice, rowType⟩ := row
      simp only [ReceiptRow.mk.injEq, List.mem_cons]
      constructor
      · rintro ((hold | ⟨⟨rfl, rfl, rfl⟩, hreceivable⟩) | ⟨rfl, rfl, hmem, hreceivable⟩)
        · exact .inl hold
        · exact .inr ⟨rfl, rfl, .inl rfl, hreceivable⟩
        · exact .inr ⟨rfl, rfl, .inr hmem, hreceivable⟩
      · rintro (hold | ⟨rfl, rfl, rfl | hmem, hreceivable⟩)
        · exact .inl (.inl hold)
        · exact .inl (.inr ⟨⟨rfl, rfl, rfl⟩, hreceivable⟩)
        · exact .inr ⟨rfl, rfl, hmem, hreceivable⟩

end Recording

/-! ## Requests -/

section Requests

variable {crypto : Crypto} {now : Time} {frame : TransportFrame} {db : Database}
variable {row : ReceiptRow}

theorem length_readMany {length count : ℕ} {input unread : Bytes}
    {values : List (FixedBytes length)}
    (hread : readMany length count input = .ok (values, unread)) :
    values.length = count := by
  induction count generalizing input unread values with
  | zero =>
      obtain ⟨rfl, -⟩ := Prod.mk.inj (pure_eq_ok.mp hread)
      rfl
  | succ count ih =>
      obtain ⟨first, middle, -, hread⟩ := bind_eq_ok.mp hread
      obtain ⟨others, rest, hothers, hread⟩ := bind_eq_ok.mp hread
      obtain ⟨rfl, -⟩ := Prod.mk.inj (pure_eq_ok.mp hread)
      rw [List.length_cons, ih hothers]

/-- A batch that can be read is not too long to be recorded. -/
theorem length_batch {unread : Bytes} {eventIds : List Id16}
    (hread : decodeWith receiptReader unread = .ok eventIds) :
    (eventIds.length : ℤ) ≤ maxSyncBatch := by
  obtain ⟨rest, hread⟩ := ByteReader.decodeWith_eq_ok.mp hread
  obtain ⟨count, _, -, hread⟩ := bind_eq_ok.mp hread
  obtain ⟨_, _, hcount, hread⟩ := bind_eq_ok.mp hread
  obtain ⟨values, _, hvalues, hread⟩ := bind_eq_ok.mp hread
  obtain ⟨_, _, -, hread⟩ := bind_eq_ok.mp hread
  obtain ⟨rfl, -⟩ := Prod.mk.inj (pure_eq_ok.mp hread)
  obtain ⟨hsmall, -⟩ := ensure_eq_ok.mp hcount
  have hsmall' : count.toNat ≤ 50 := UInt8.le_iff_toNat_le.mp (of_decide_eq_true hsmall)
  rw [length_readMany hvalues]
  unfold maxSyncBatch
  omega

theorem requested_recordReceipts {deviceId : Id16} {eventIds : List Id16}
    {receiptType : ℤ} :
    requestedCall crypto now frame db =
        some (.recordReceipts deviceId eventIds receiptType) ↔
      ∃ unread, CarriesType frame.kind receiptType ∧
        signedIn crypto now frame.body db = some (deviceId, unread) ∧
        decodeWith receiptReader unread = .ok eventIds := by
  have hbatch : ∀ found : ℤ, ((signedIn crypto now frame.body db).bind fun caller =>
      (decodeWith receiptReader caller.2).toOption.bind fun ids =>
        some (Call.recordReceipts caller.1 ids found)) =
          some (.recordReceipts deviceId eventIds receiptType) ↔
      found = receiptType ∧ ∃ unread,
        signedIn crypto now frame.body db = some (deviceId, unread) ∧
        decodeWith receiptReader unread = .ok eventIds := by
    intro found
    simp only [Option.bind_eq_some_iff, toOption_eq_some, Option.some.injEq,
      Call.recordReceipts.injEq, Prod.exists]
    constructor
    · rintro ⟨_, unread, hcaller, _, hread, rfl, rfl, rfl⟩
      exact ⟨rfl, unread, hcaller, hread⟩
    · rintro ⟨rfl, unread, hcaller, hread⟩
      exact ⟨deviceId, unread, hcaller, eventIds, hread, rfl, rfl, rfl⟩
  constructor
  · intro hcall
    have hkind : frame.kind =
        if receiptType = 1 then .deliveryReceiptBatch else .readReceiptBatch :=
      kind_of_requested hcall
    split at hkind
    · simp only [requestedCall, hkind] at hcall
      obtain ⟨rfl, unread, hcaller, hread⟩ := (hbatch 1).mp hcall
      exact ⟨unread, .inl ⟨hkind, rfl⟩, hcaller, hread⟩
    · simp only [requestedCall, hkind] at hcall
      obtain ⟨rfl, unread, hcaller, hread⟩ := (hbatch 2).mp hcall
      exact ⟨unread, .inr ⟨hkind, rfl⟩, hcaller, hread⟩
  · rintro ⟨unread, ⟨hkind, rfl⟩ | ⟨hkind, rfl⟩, hcaller, hread⟩
    · simp only [requestedCall, hkind]
      exact (hbatch 1).mpr ⟨rfl, unread, hcaller, hread⟩
    · simp only [requestedCall, hkind]
      exact (hbatch 2).mpr ⟨rfl, unread, hcaller, hread⟩

theorem reports_iff {request : Request} :
    Reports crypto row db (.request request) ↔ ∃ eventIds,
      requestedCall crypto request.moment.now request.frame db =
        some (.recordReceipts row.deviceId eventIds row.receiptType) ∧
      row.eventId ∈ eventIds ∧ Receivable db row.deviceId row.eventId := by
  simp only [Reports, requested_recordReceipts]
  constructor
  · rintro ⟨unread, eventIds, hkind, hcaller, hread, hmem, hreceivable⟩
    exact ⟨eventIds, ⟨unread, hkind, hcaller, hread⟩, hmem, hreceivable⟩
  · rintro ⟨eventIds, ⟨unread, hkind, hcaller, hread⟩, hmem, hreceivable⟩
    exact ⟨unread, eventIds, hkind, hcaller, hread, hmem, hreceivable⟩

/-- No call takes an event away. -/
theorem stored_perform (moment : Moment) (call : Call) (hstored : Stored row db) :
    Stored row (call.perform crypto moment db) := by
  have heffect := perform_effect crypto moment db call
  generalize call.perform crypto moment db = next at heffect
  cases heffect with
  | quiet hquiet => rwa [Stored, hquiet.events]
  | created groupId creator device hdevice hgroup hmember => exact hstored
  | removed operation hremove hlogged member htarget hmembers =>
      rwa [Stored, hlogged.events]
  | admitted operation hadmitted hlogged device hdevice hmembers =>
      rwa [Stored, hlogged.events]
  | posted event hauthor hposted =>
      obtain ⟨found, hfound⟩ := Option.isSome_iff_exists.mp hstored
      have hmem : found ∈ next.groupEvents.rows := by
        rw [hposted.appended, List.mem_append]
        exact .inl (Table.mem_of_lookup hfound)
      have hlookup := Table.mem_rows_iff.mp hmem
      rw [Table.key_of_lookup hfound] at hlookup
      exact Option.isSome_iff_exists.mpr ⟨found, hlookup⟩

theorem stored_of_reports {request : Request}
    (hreports : Reports crypto row db (.request request)) :
    Stored row (serve crypto db request) := by
  obtain ⟨eventIds, hcall, -, event, hevent, -⟩ := reports_iff.mp hreports
  rw [serve_requested, hcall]
  exact stored_perform request.moment _ (Option.isSome_iff_exists.mpr ⟨event, hevent⟩)

theorem mem_serve {request : Request}
    (hheld : row ∈ db.messageReceipts.rows → Stored row db) :
    row ∈ (serve crypto db request).messageReceipts.rows ↔
      Reports crypto row db (.request request) ∨
        row ∈ db.messageReceipts.rows ∧ Stored row (serve crypto db request) := by
  rw [reports_iff, serve_requested]
  cases hcall : requestedCall crypto request.moment.now request.frame db with
  | none => simpa [carryOut] using hheld
  | some call =>
      have hkept : Stored row db → Stored row (call.perform crypto request.moment db) :=
        stored_perform request.moment call
      have hextent := perform_extent crypto request.moment db call
      simp only [carryOut, Option.some.injEq]
      generalize hnext : call.perform crypto request.moment db = next at hkept hextent ⊢
      cases call with
      | recordReceipts deviceId eventIds receiptType =>
          obtain ⟨unread, hkind, -, hread⟩ := requested_recordReceipts.mp hcall
          have hvalid : ¬((receiptType ≠ 1 ∧ receiptType ≠ 2) ∨
              maxSyncBatch < eventIds.length) := by
            rintro (⟨hone, htwo⟩ | hlong)
            · rcases hkind with ⟨-, rfl⟩ | ⟨-, rfl⟩
              · exact hone rfl
              · exact htwo rfl
            · exact absurd (length_batch hread) (not_le.mpr hlong)
          have hrecorded : next =
              (eventIds.foldl (recordReceipt deviceId receiptType) (0, db)).2 := by
            rw [← hnext, Call.perform, recordReceipts, if_neg hvalid]
          rw [hrecorded] at hkept ⊢
          rw [mem_recordReceipts]
          simp only [Call.recordReceipts.injEq]
          constructor
          · rintro (hold | ⟨rfl, rfl, hmem, hreceivable⟩)
            · exact .inr ⟨hold, hkept (hheld hold)⟩
            · exact .inl ⟨eventIds, ⟨rfl, rfl, rfl⟩, hmem, hreceivable⟩
          · rintro (⟨_, ⟨rfl, rfl, rfl⟩, hmem, hreceivable⟩ | ⟨hold, -⟩)
            · exact .inr ⟨rfl, rfl, hmem, hreceivable⟩
            · exact .inl hold
      | _ =>
          cases hextent
          constructor
          · exact fun hold => .inr ⟨hold, hkept (hheld hold)⟩
          · rintro (⟨_, hother, -⟩ | ⟨hold, -⟩)
            · cases hother
            · exact hold

end Requests

/-! ## Runs -/

section Steps

variable {crypto : Crypto} {db : Database} {row : ReceiptRow}

theorem mem_cleanup {now : Time} {batch : ℤ} {scan : EventProvenance.Scan}
    (hheld : row ∈ db.messageReceipts.rows → Stored row db) :
    row ∈ (cleanupExpiredEvents now batch scan db).2.messageReceipts.rows ↔
      row ∈ db.messageReceipts.rows ∧
        Stored row (cleanupExpiredEvents now batch scan db).2 := by
  simp only [cleanupExpiredEvents, Stored, Table.lookup_delete]
  rw [Table.mem_rows_iff, Table.lookup_delete, Option.filter_eq_some_iff,
    ← Table.mem_rows_iff]
  constructor
  · rintro ⟨hold, hleft⟩
    refine ⟨hold, ?_⟩
    obtain ⟨event, hevent⟩ := Option.isSome_iff_exists.mp (hheld hold)
    rw [hevent, Option.filter_some, Table.key_of_lookup hevent, if_pos hleft]
    rfl
  · rintro ⟨hold, hstored⟩
    refine ⟨hold, ?_⟩
    obtain ⟨event, hevent⟩ := Option.isSome_iff_exists.mp hstored
    obtain ⟨hfound, hleft⟩ := Option.filter_eq_some_iff.mp hevent
    rwa [Table.key_of_lookup hfound] at hleft

theorem mem_step (label : Label)
    (hheld : row ∈ db.messageReceipts.rows → Stored row db) :
    row ∈ (step crypto db label).messageReceipts.rows ↔
      Reports crypto row db label ∨
        row ∈ db.messageReceipts.rows ∧ Stored row (step crypto db label) := by
  cases label with
  | request request => exact mem_serve hheld
  | revoke now deviceId =>
      simp only [Reports, false_or]
      exact ⟨fun hold => ⟨hold, hheld hold⟩, And.left⟩
  | cleanup now batch scan =>
      simp only [Reports, false_or]
      exact mem_cleanup hheld

theorem stored_step (label : Label)
    (hheld : row ∈ db.messageReceipts.rows → Stored row db)
    (hrow : row ∈ (step crypto db label).messageReceipts.rows) :
    Stored row (step crypto db label) := by
  rcases (mem_step label hheld).mp hrow with hreports | ⟨-, hstored⟩
  · cases label with
    | request request => exact stored_of_reports hreports
    | revoke now deviceId => exact hreports.elim
    | cleanup now batch scan => exact hreports.elim
  · exact hstored

end Steps

/-- The receipts after any run are those that were reported for an event that was
stored then and has been stored ever since. -/
theorem receipts_exact (crypto : Crypto) (row : ReceiptRow) (labels : List Label) :
    row ∈ (run (step crypto) Database.migrated labels).messageReceipts.rows ↔
      Since (step crypto) (Reports crypto row)
        (fun db label => Stored row (step crypto db label)) Database.migrated labels := by
  have hempty : row ∉ Database.migrated.messageReceipts.rows := by
    simp [Database.migrated, Table.empty]
  apply holds_iff_since (P := fun db : Database => row ∈ db.messageReceipts.rows)
    (fun db label hheld => stored_step label hheld)
    (fun db label hheld => mem_step label hheld)
  · exact fun hrow => absurd hrow hempty
  · exact hempty

end ResilientMessenger.Receipts
