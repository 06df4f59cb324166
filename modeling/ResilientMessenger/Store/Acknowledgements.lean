import ResilientMessenger.Store.MessageLifecycle

/-!
# Server acknowledgements over whole runs

An upload acceptance takes a message out of the outbox; delivery and read
receipts only raise its status.  When a receipt overtakes the acceptance, the
message leaves the pending statuses with its outbox row still in place, and the
acceptance that should remove the row is then refused.  This module states the
three run-level contracts that meet at this point and proves for each the
condition under which the operations honour it.
-/

namespace ResilientMessenger.Acknowledgements

open ResilientMessenger.ByteCodec
open ResilientMessenger.LocalDatabase
open ResilientMessenger.StoreOperations
open ResilientMessenger.MessageLifecycle
open ResilientMessenger.Runs

/-- The state of a freshly opened, empty store. -/
def opened (key : Key) : MessengerCore where
  db := Database.initial
  masterKey := key

/-- A key, a message id and a creation for concrete runs. -/
def sampleKey : Key := FixedBytes.fill 32 1

def sampleId : Id16 := FixedBytes.fill 16 2

def sampleCreate : Operation :=
  .createMessage sampleId (FixedBytes.fill 24 3) 0 (FixedBytes.fill 16 4) "OK"

/-! ## The outbox holds exactly the waiting messages -/

/-- An outbox row exists for exactly the messages that are `ReadyToUpload` or
`RetryScheduled`. -/
def OutboxAgrees (core : MessengerCore) : Prop :=
  ∀ id, (∃ queued, core.db.outbox.lookup id = some queued) ↔
    ∃ row, core.db.messages.lookup id = some row ∧
      (row.status = MessageStatus.readyToUpload.code ∨
        row.status = MessageStatus.retryScheduled.code)

/-- The same agreement, read off one lifecycle. -/
def Lifecycle.Agrees (life : Lifecycle) : Prop :=
  life.queued = true ↔
    life.status = some MessageStatus.readyToUpload.code ∨
      life.status = some MessageStatus.retryScheduled.code

theorem outboxAgrees_iff (core : MessengerCore) :
    OutboxAgrees core ↔ ∀ id, Lifecycle.Agrees (lifecycle core.db id) := by
  apply forall_congr'
  intro id
  simp only [Lifecycle.Agrees, lifecycle, Option.isSome_iff_exists,
    Option.map_eq_some_iff, and_or_left, exists_or]

/-- The call is not a receipt for a message that still waits for its first
upload. -/
def receiptAfterUpload (core : MessengerCore) : Operation → Prop
  | .applyDeliveryReceipt id | .applyReadReceipt id =>
      (lifecycle core.db id).status ≠ some MessageStatus.readyToUpload.code
  | _ => True

/-- Below `RetryScheduled`, only `ReadyToUpload` is a queued status. -/
theorem not_queued_of_behind {life : Lifecycle} {status : ℤ}
    (hagrees : Lifecycle.Agrees life) (hstatus : life.status = some status)
    (hbehind : status < MessageStatus.retryScheduled.code)
    (hready : life.status ≠ some MessageStatus.readyToUpload.code) :
    life.queued ≠ true := by
  intro hqueued
  rcases hagrees.mp hqueued with heq | heq
  · exact hready heq
  · rw [hstatus, Option.some.injEq] at heq
    omega

theorem agrees_of_moves {id : Id16} {old new : Lifecycle} {operation : Operation}
    (hmoves : Moves id old operation new) (hagrees : Lifecycle.Agrees old)
    (hreceipt : operation = .applyDeliveryReceipt id ∨
        operation = .applyReadReceipt id →
      old.status ≠ some MessageStatus.readyToUpload.code) :
    Lifecycle.Agrees new := by
  cases hmoves with
  | stays => exact hagrees
  | created hfree => simp [Lifecycle.Agrees]
  | accepted hstatus => simp [Lifecycle.Agrees, MessageStatus.code]
  | retried hqueued =>
      rcases hagrees.mp hqueued with hready | hretry
      · simp [Lifecycle.Agrees, hready]
      · simp [Lifecycle.Agrees, hretry]
  | cancelled hstatus => simp [Lifecycle.Agrees, MessageStatus.code]
  | delivered hstatus hbehind =>
      have hunqueued := not_queued_of_behind hagrees hstatus
        (hbehind.trans (by decide)) (hreceipt (.inl rfl))
      simp [Lifecycle.Agrees, hunqueued, MessageStatus.code]
  | read hstatus hbehind =>
      have hunqueued := not_queued_of_behind hagrees hstatus
        (hbehind.trans (by decide)) (hreceipt (.inr rfl))
      simp [Lifecycle.Agrees, hunqueued, MessageStatus.code]
  | wiped => simp [Lifecycle.Agrees, Lifecycle.absent]

theorem outboxAgrees_step (aead : Aead) (core : MessengerCore)
    (operation : Operation) (hagrees : OutboxAgrees core)
    (hguard : receiptAfterUpload core operation) :
    OutboxAgrees (step aead core operation) := by
  rw [outboxAgrees_iff] at hagrees ⊢
  intro id
  refine agrees_of_moves (step_moves aead core operation id) (hagrees id) ?_
  rintro (rfl | rfl) <;> exact hguard

/-- A receipt for a message that still waits for its first upload leaves the
outbox row behind. -/
theorem not_agrees_of_early_receipt {db : Database} {id : Id16}
    {status : MessageStatus}
    (hagrees : Lifecycle.Agrees (lifecycle db id))
    (hready : (lifecycle db id).status = some MessageStatus.readyToUpload.code)
    (hreceipt : status = .delivered ∨ status = .read) :
    ¬Lifecycle.Agrees (lifecycle (advanceMessageStatus id status db).2 id) := by
  have hqueued : (lifecycle db id).queued = true := hagrees.mpr (.inl hready)
  have hbehind : MessageStatus.readyToUpload.code < status.code := by
    rcases hreceipt with rfl | rfl <;> decide
  rw [lifecycle_advance_of_behind hready hbehind, hqueued]
  rcases hreceipt with rfl | rfl <;> simp [Lifecycle.Agrees, MessageStatus.code]

theorem not_outboxAgrees_step (aead : Aead) (core : MessengerCore)
    (operation : Operation) (hagrees : OutboxAgrees core)
    (hguard : ¬receiptAfterUpload core operation) :
    ¬OutboxAgrees (step aead core operation) := by
  rw [outboxAgrees_iff] at hagrees ⊢
  intro hall
  cases operation with
  | applyDeliveryReceipt id =>
      exact not_agrees_of_early_receipt (hagrees id) (not_not.mp hguard) (.inl rfl)
        (hall id)
  | applyReadReceipt id =>
      exact not_agrees_of_early_receipt (hagrees id) (not_not.mp hguard) (.inr rfl)
        (hall id)
  | _ => exact hguard trivial

theorem outboxAgrees_opened (key : Key) : OutboxAgrees (opened key) := by
  rw [outboxAgrees_iff]
  intro id
  simp [Lifecycle.Agrees, lifecycle, opened, Database.initial]

/-- From an empty store, the outbox agrees with the statuses in every state of
a run exactly when no receipt of the run meets a message that still waits for
its first upload. -/
theorem outbox_agrees_iff_no_early_receipt (aead : Aead) (key : Key)
    (operations : List Operation) :
    Along (step aead) OutboxAgrees (opened key) operations ↔
      Guarded (step aead) receiptAfterUpload (opened key) operations :=
  along_iff_guarded (fun _ hagrees => hagrees) (outboxAgrees_step aead)
    (not_outboxAgrees_step aead) (outboxAgrees_opened key) operations

/-- A created message whose delivery receipt arrives before the acceptance is
`Delivered` and still queued. -/
theorem delivery_before_acceptance_breaks_outbox :
    ¬OutboxAgrees (run (step Aead.transparent) (opened sampleKey)
      [sampleCreate, .applyDeliveryReceipt sampleId]) := by
  rw [outboxAgrees_iff]
  intro hall
  have hagrees := hall sampleId
  revert hagrees
  unfold Lifecycle.Agrees
  decide +kernel

/-! ## Receipts are never lost -/

/-- The two kinds of receipt. -/
inductive Receipt where
  | delivery
  | read
  deriving DecidableEq

namespace Receipt

def operation (id : Id16) : Receipt → Operation
  | delivery => .applyDeliveryReceipt id
  | read => .applyReadReceipt id

/-- The status the receipt asks for. -/
def target : Receipt → MessageStatus
  | delivery => .delivered
  | read => .read

/-- The statuses that honour the receipt: `Delivered` or `Read` for a delivery
receipt and `Read` for a read receipt. -/
def Honoured (receipt : Receipt) (status : Option ℤ) : Prop :=
  status = some receipt.target.code ∨ status = some MessageStatus.read.code

theorem Honoured.delivered_or_read {receipt : Receipt} {status : Option ℤ}
    (hhonoured : receipt.Honoured status) :
    status = some MessageStatus.delivered.code ∨
      status = some MessageStatus.read.code := by
  cases receipt with
  | delivery => exact hhonoured
  | read => exact .inr (hhonoured.elim (fun heq => heq) fun heq => heq)

end Receipt

/-- The call is neither a receipt that finds the message `RetryScheduled` nor a
retry that finds it `Delivered` or `Read` with its outbox row in place. -/
def receiptKept (id : Id16) (core : MessengerCore) : Operation → Prop
  | .applyDeliveryReceipt target | .applyReadReceipt target =>
      target = id →
        (lifecycle core.db id).status ≠ some MessageStatus.retryScheduled.code
  | .retryMessage _ target =>
      target = id → (lifecycle core.db id).queued = true →
        (lifecycle core.db id).status ≠ some MessageStatus.delivered.code ∧
          (lifecycle core.db id).status ≠ some MessageStatus.read.code
  | _ => True

/-- The statuses a message created by the store can have. -/
def Lifecycle.Reached (life : Lifecycle) : Prop :=
  ∀ status, life.status = some status →
    status = MessageStatus.readyToUpload.code ∨
      status = MessageStatus.serverAccepted.code ∨
      status = MessageStatus.delivered.code ∨ status = MessageStatus.read.code ∨
      status = MessageStatus.retryScheduled.code ∨
      status = MessageStatus.cancelled.code

theorem reached_of_moves {id : Id16} {old new : Lifecycle} {operation : Operation}
    (hmoves : Moves id old operation new) (hreached : Lifecycle.Reached old) :
    Lifecycle.Reached new := by
  intro status hstatus
  cases hmoves with
  | stays => exact hreached status hstatus
  | retried hqueued =>
      obtain ⟨_, -, rfl⟩ := Option.map_eq_some_iff.mp hstatus
      simp
  | wiped => cases hstatus
  | _ =>
      cases hstatus
      simp

/-- A receipt that succeeds on a message that is neither scheduled for a retry
nor cancelled is honoured at once. -/
theorem honoured_after_receipt {db : Database} {id : Id16} (receipt : Receipt)
    (hreached : Lifecycle.Reached (lifecycle db id))
    (hok : (advanceMessageStatus id receipt.target db).1 = .ok ())
    (hretry : (lifecycle db id).status ≠ some MessageStatus.retryScheduled.code)
    (hcancelled : (lifecycle db id).status ≠ some MessageStatus.cancelled.code) :
    receipt.Honoured
      (lifecycle (advanceMessageStatus id receipt.target db).2 id).status := by
  rw [advanceMessageStatus_eq_ok] at hok
  obtain ⟨row, hlookup⟩ := Option.ne_none_iff_exists'.mp hok
  have hstatus : (lifecycle db id).status = some row.status := by
    simp [lifecycle, hlookup]
  by_cases hbehind : row.status < receipt.target.code
  · rw [lifecycle_advance_of_behind hstatus hbehind]
    exact .inl rfl
  · rcases advanceMessageStatus_cases id receipt.target db id with
      hsame | ⟨-, behind, hold, hraise, -⟩
    · rw [hsame, hstatus]
      rw [hstatus, Ne, Option.some.injEq] at hretry hcancelled
      rcases hreached row.status hstatus with h | h | h | h | h | h <;>
        cases receipt <;>
        simp_all [Receipt.Honoured, Receipt.target, MessageStatus.code]
    · rw [hstatus, Option.some.injEq] at hold
      exact absurd (hold ▸ hraise) hbehind

/-- Every later call except a wipe keeps an honoured receipt honoured. -/
theorem honoured_of_moves {id : Id16} {old new : Lifecycle} {operation : Operation}
    {receipt : Receipt} (hmoves : Moves id old operation new)
    (hhonoured : receipt.Honoured old.status)
    (hwipe : operation ≠ .wipeLocalAccount)
    (hretry : ∀ now, operation = .retryMessage now id → old.queued = true →
      old.status ≠ some MessageStatus.delivered.code ∧
        old.status ≠ some MessageStatus.read.code) :
    receipt.Honoured new.status := by
  have hold := hhonoured.delivered_or_read
  cases hmoves with
  | stays => exact hhonoured
  | created hfree => simp [hfree, Lifecycle.absent] at hold
  | accepted hstatus =>
      rcases hold with hold | hold <;> simp [hold, MessageStatus.code] at hstatus
  | retried hqueued =>
      obtain ⟨hdelivered, hread⟩ := hretry _ rfl hqueued
      exact (hold.elim hdelivered hread).elim
  | cancelled hstatus =>
      rcases hold with hold | hold <;> simp [hold, MessageStatus.code] at hstatus
  | delivered hstatus hbehind =>
      rcases hold with hold | hold
      · rw [hold, Option.some.injEq] at hstatus
        omega
      · rw [hold, Option.some.injEq] at hstatus
        simp [← hstatus, MessageStatus.code] at hbehind
  | read hstatus hbehind => exact .inr rfl
  | wiped => exact absurd rfl hwipe

theorem reached_run (aead : Aead) (key : Key) (operations : List Operation)
    (id : Id16) :
    Lifecycle.Reached
      (lifecycle (run (step aead) (opened key) operations).db id) := by
  refine run_invariant
    (P := fun core : MessengerCore => Lifecycle.Reached (lifecycle core.db id))
    ?_ ?_ operations
  · intro core operation hreached
    exact reached_of_moves (step_moves aead core operation id) hreached
  · intro status hstatus
    simp [lifecycle, opened, Database.initial] at hstatus

/-- A guarded continuation without a wipe keeps an honoured receipt
honoured. -/
theorem honoured_run {aead : Aead} {id : Id16} {receipt : Receipt}
    {core : MessengerCore} {after : List Operation}
    (hhonoured : receipt.Honoured (lifecycle core.db id).status)
    (hguarded : Guarded (step aead) (receiptKept id) core after)
    (hwipe : Operation.wipeLocalAccount ∉ after) :
    receipt.Honoured (lifecycle (run (step aead) core after).db id).status := by
  induction after generalizing core with
  | nil => exact hhonoured
  | cons operation after ih =>
      obtain ⟨hguard, hrest⟩ := hguarded
      rw [List.mem_cons, not_or] at hwipe
      refine ih ?_ hrest hwipe.2
      refine honoured_of_moves (step_moves aead core operation id) hhonoured
        (Ne.symm hwipe.1) ?_
      rintro now rfl
      exact hguard rfl

/-- In every run from an empty store in which no receipt for the message meets
it scheduled for a retry and no retry meets it delivered with its outbox row
in place, a receipt that returns `Ok` on a message that is not cancelled is
honoured in every later state, up to a wipe. -/
theorem receipt_honoured_until_wipe (aead : Aead) (key : Key) (id : Id16)
    (receipt : Receipt) (before after : List Operation)
    (hguarded : Guarded (step aead) (receiptKept id) (opened key)
      (before ++ receipt.operation id :: after))
    (hok : (perform aead (run (step aead) (opened key) before)
      (receipt.operation id)).1 = .ok ())
    (hcancelled : (lifecycle (run (step aead) (opened key) before).db id).status ≠
      some MessageStatus.cancelled.code)
    (hwipe : Operation.wipeLocalAccount ∉ after) :
    receipt.Honoured
      (lifecycle (run (step aead) (opened key)
        (before ++ receipt.operation id :: after)).db id).status := by
  obtain ⟨-, hreceipt, hafter⟩ := guarded_append.mp hguarded
  have hreached := reached_run aead key before id
  rw [run_append, run_cons]
  refine honoured_run ?_ hafter hwipe
  cases receipt with
  | delivery =>
      exact honoured_after_receipt .delivery hreached hok (hreceipt rfl) hcancelled
  | read => exact honoured_after_receipt .read hreached hok (hreceipt rfl) hcancelled

/-- The expected order: the acceptance first, then both receipts. -/
theorem receipt_honoured_after_acceptance :
    Receipt.delivery.Honoured
      (lifecycle (run (step Aead.transparent) (opened sampleKey)
        [sampleCreate, .markUploadAccepted sampleId,
          .applyDeliveryReceipt sampleId, .applyReadReceipt sampleId]).db
        sampleId).status :=
  receipt_honoured_until_wipe Aead.transparent sampleKey sampleId .delivery
    [sampleCreate, .markUploadAccepted sampleId] [.applyReadReceipt sampleId]
    ⟨trivial, trivial, by intro _; decide +kernel, by intro _; decide +kernel,
      trivial⟩
    (by decide +kernel) (by decide +kernel) (by simp)

/-- A delivery receipt that meets its message scheduled for a retry returns
`Ok` and is dropped. -/
theorem delivery_during_retry_is_dropped :
    (perform Aead.transparent
        (run (step Aead.transparent) (opened sampleKey)
          [sampleCreate, .retryMessage 0 sampleId])
        (.applyDeliveryReceipt sampleId)).1 = .ok () ∧
      (lifecycle (run (step Aead.transparent) (opened sampleKey)
        [sampleCreate, .retryMessage 0 sampleId]).db sampleId).status ≠
          some MessageStatus.cancelled.code ∧
      ¬Receipt.delivery.Honoured
        (lifecycle (run (step Aead.transparent) (opened sampleKey)
          [sampleCreate, .retryMessage 0 sampleId,
            .applyDeliveryReceipt sampleId]).db sampleId).status := by
  unfold Receipt.Honoured
  decide +kernel

/-! ## Acknowledgements converge -/

/-- The three server acknowledgements of one message. -/
inductive Acknowledgement where
  | accepted
  | delivered
  | read
  deriving DecidableEq

def Acknowledgement.apply (id : Id16) (db : Database) :
    Acknowledgement → Database
  | accepted => (markUploadAccepted id db).2
  | delivered => (applyDeliveryReceipt id db).2
  | read => (applyReadReceipt id db).2

/-- What the store holds about the message after a sequence of
acknowledgements, whether or not each of them returned `Ok`. -/
def settled (id : Id16) (db : Database) (acks : List Acknowledgement) :
    Option MessageRow × Option OutboxRow :=
  stored (run (Acknowledgement.apply id) db acks) id

/-- Every kind of acknowledgement occurs. -/
def Complete (acks : List Acknowledgement) : Prop :=
  .accepted ∈ acks ∧ .delivered ∈ acks ∧ .read ∈ acks

/-- The row with its status replaced. -/
def withStatus (row : MessageRow) (status : MessageStatus) : MessageRow :=
  { row with status := status.code }

theorem stored_receipt {id : Id16} {db : Database} {row : MessageRow}
    {status : MessageStatus} {queued : Option OutboxRow} (target : MessageStatus)
    (hstored : stored db id = (some (withStatus row status), queued)) :
    stored (advanceMessageStatus id target db).2 id =
      (some (withStatus row (if status.code < target.code then target else status)),
        queued) := by
  simp only [stored, Prod.mk.injEq] at hstored
  rw [stored_advanceMessageStatus, if_pos rfl, hstored.1, hstored.2, Option.map_some]
  by_cases hbehind : status.code < target.code <;> simp [withStatus, hbehind]

theorem stored_acceptance {id : Id16} {db : Database} {row : MessageRow}
    {status : MessageStatus} {queued : Option OutboxRow}
    (hstored : stored db id = (some (withStatus row status), queued)) :
    stored (markUploadAccepted id db).2 id =
      if acceptable (withStatus row status) ∨ status = .serverAccepted then
        (some (withStatus row .serverAccepted), none)
      else (some (withStatus row status), queued) := by
  have hlookup : db.messages.lookup id = some (withStatus row status) :=
    congrArg Prod.fst hstored
  have hcode : (withStatus row status).status = MessageStatus.serverAccepted.code ↔
      status = .serverAccepted := by
    cases status <;> simp [withStatus, MessageStatus.code]
  rw [stored_markUploadAccepted, if_pos rfl, hlookup]
  simp only [hcode, hstored]
  rfl

/-- Once accepted, the message stays out of the outbox and ends `Read` when a
read receipt is among the acknowledgements. -/
theorem settled_after_acceptance {id : Id16} {db : Database} {row : MessageRow}
    {status : MessageStatus} (acks : List Acknowledgement)
    (hstatus : status = .serverAccepted ∨ status = .delivered ∨ status = .read)
    (hstored : stored db id = (some (withStatus row status), none))
    (hread : .read ∈ acks ∨ status = .read) :
    settled id db acks = (some (withStatus row .read), none) := by
  induction acks generalizing db status with
  | nil =>
      obtain rfl : status = .read := by simpa using hread
      exact hstored
  | cons ack acks ih =>
      cases ack with
      | accepted =>
          refine ih hstatus ?_ (by simpa using hread)
          rw [Acknowledgement.apply, stored_acceptance hstored]
          rcases hstatus with rfl | rfl | rfl <;>
            simp [acceptable, withStatus, MessageStatus.code]
      | delivered =>
          refine ih ?_ (stored_receipt .delivered hstored) ?_
          · rcases hstatus with rfl | rfl | rfl <;> simp [MessageStatus.code]
          · rcases hread with hread | rfl
            · exact .inl (by simpa using hread)
            · exact .inr (by simp [MessageStatus.code])
      | read =>
          refine ih ?_ (stored_receipt .read hstored) ?_
          · rcases hstatus with rfl | rfl | rfl <;> simp [MessageStatus.code]
          · refine .inr ?_
            rcases hstatus with rfl | rfl | rfl <;> simp [MessageStatus.code]

/-- Once a receipt has overtaken the acceptance, no acknowledgement removes the
outbox row. -/
theorem settled_after_early_receipt {id : Id16} {db : Database} {row : MessageRow}
    {status : MessageStatus} {queued : OutboxRow} (acks : List Acknowledgement)
    (hstatus : status = .delivered ∨ status = .read)
    (hstored : stored db id = (some (withStatus row status), some queued)) :
    (settled id db acks).2 = some queued := by
  induction acks generalizing db status with
  | nil => exact congrArg Prod.snd hstored
  | cons ack acks ih =>
      cases ack with
      | accepted =>
          refine ih hstatus ?_
          rw [Acknowledgement.apply, stored_acceptance hstored]
          rcases hstatus with rfl | rfl <;>
            simp [acceptable, withStatus, MessageStatus.code]
      | delivered =>
          refine ih ?_ (stored_receipt .delivered hstored)
          rcases hstatus with rfl | rfl <;> simp [MessageStatus.code]
      | read =>
          refine ih ?_ (stored_receipt .read hstored)
          rcases hstatus with rfl | rfl <;> simp [MessageStatus.code]

theorem settled_of_accepted_first {id : Id16} {db : Database} {row : MessageRow}
    {queued : OutboxRow} {acks : List Acknowledgement}
    (hstored : stored db id = (some (withStatus row .readyToUpload), some queued))
    (hcomplete : Complete acks) (hfirst : acks.head? = some .accepted) :
    settled id db acks = (some (withStatus row .read), none) := by
  obtain ⟨-, -, hread⟩ := hcomplete
  cases acks with
  | nil => cases hfirst
  | cons ack acks =>
      cases hfirst
      refine settled_after_acceptance acks (.inl rfl) ?_
        (.inl (by simpa using hread))
      rw [Acknowledgement.apply, stored_acceptance hstored]
      simp [acceptable, withStatus, MessageStatus.code]

theorem accepted_first_of_settled {id : Id16} {db : Database} {row : MessageRow}
    {queued : OutboxRow} {acks : List Acknowledgement}
    (hstored : stored db id = (some (withStatus row .readyToUpload), some queued))
    (hcomplete : Complete acks) (hremoved : (settled id db acks).2 = none) :
    acks.head? = some .accepted := by
  cases acks with
  | nil => simp [Complete] at hcomplete
  | cons ack acks =>
      cases ack with
      | accepted => rfl
      | delivered =>
          have hearly : (settled id db (.delivered :: acks)).2 = some queued :=
            settled_after_early_receipt acks (.inl rfl)
              (stored_receipt .delivered hstored)
          rw [hremoved] at hearly
          cases hearly
      | read =>
          have hearly : (settled id db (.read :: acks)).2 = some queued :=
            settled_after_early_receipt acks (.inr rfl)
              (stored_receipt .read hstored)
          rw [hremoved] at hearly
          cases hearly

/-- A successful creation leaves one waiting row in each table. -/
theorem stored_of_created {aead : Aead} {id : Id16} {nonce : Nonce} {now : ℤ}
    {conversationId : Id16} {plaintext : String} {core : MessengerCore}
    (hok : (createMessage aead id nonce now conversationId plaintext core).1 =
      .ok id) :
    ∃ row queued, stored
      (createMessage aead id nonce now conversationId plaintext core).2.db id =
        (some (withStatus row .readyToUpload), some queued) := by
  unfold createMessage at hok ⊢
  cases hencrypt : encrypt aead core.masterKey nonce (utf8 plaintext) with
  | error failure => simp [hencrypt] at hok
  | ok encrypted =>
      simp only [hencrypt, MessengerCore.withDatabase] at hok ⊢
      rcases insertCreated_cases id conversationId encrypted now core.db with
        ⟨failure, hfailure⟩ | ⟨-, -, hstored⟩
      · rw [hfailure] at hok
        cases hok
      · exact ⟨freshMessageRow id conversationId encrypted now,
          freshOutboxRow id now, (hstored id).trans (if_pos rfl)⟩

/-- Two complete sequences of acknowledgements for a freshly created message
end in one store state with status `Read` and no outbox row exactly when each
of them starts with the acceptance. -/
theorem acknowledgements_converge_iff (aead : Aead) (id : Id16) (nonce : Nonce)
    (now : ℤ) (conversationId : Id16) (plaintext : String) (core : MessengerCore)
    (left right : List Acknowledgement)
    (hok : (createMessage aead id nonce now conversationId plaintext core).1 =
      .ok id)
    (hleft : Complete left) (hright : Complete right) :
    (∃ row, row.status = MessageStatus.read.code ∧
      settled id
        (createMessage aead id nonce now conversationId plaintext core).2.db left =
          (some row, none) ∧
      settled id
        (createMessage aead id nonce now conversationId plaintext core).2.db right =
          (some row, none)) ↔
      left.head? = some .accepted ∧ right.head? = some .accepted := by
  obtain ⟨row, queued, hstored⟩ := stored_of_created hok
  constructor
  · rintro ⟨_, -, hsettledLeft, hsettledRight⟩
    exact ⟨accepted_first_of_settled hstored hleft (congrArg Prod.snd hsettledLeft),
      accepted_first_of_settled hstored hright (congrArg Prod.snd hsettledRight)⟩
  · rintro ⟨hfirstLeft, hfirstRight⟩
    exact ⟨withStatus row .read, rfl,
      settled_of_accepted_first hstored hleft hfirstLeft,
      settled_of_accepted_first hstored hright hfirstRight⟩

theorem acknowledgements_converge_on_sample :
    ∃ row, row.status = MessageStatus.read.code ∧
      settled sampleId
        (createMessage Aead.transparent sampleId (FixedBytes.fill 24 3) 0
          (FixedBytes.fill 16 4) "OK" (opened sampleKey)).2.db
        [.accepted, .delivered, .read] = (some row, none) ∧
      settled sampleId
        (createMessage Aead.transparent sampleId (FixedBytes.fill 24 3) 0
          (FixedBytes.fill 16 4) "OK" (opened sampleKey)).2.db
        [.accepted, .read, .accepted, .delivered] = (some row, none) :=
  (acknowledgements_converge_iff Aead.transparent sampleId (FixedBytes.fill 24 3) 0
    (FixedBytes.fill 16 4) "OK" (opened sampleKey) _ _ (by decide +kernel)
    (by unfold Complete; decide) (by unfold Complete; decide)).mpr ⟨rfl, rfl⟩

/-- With the delivery receipt first, the message ends `Read` but its outbox row
stays; in the expected order the row is gone. -/
theorem delivery_first_diverges :
    (settled sampleId
        (createMessage Aead.transparent sampleId (FixedBytes.fill 24 3) 0
          (FixedBytes.fill 16 4) "OK" (opened sampleKey)).2.db
        [.delivered, .accepted, .read]).2.isSome = true ∧
      (settled sampleId
        (createMessage Aead.transparent sampleId (FixedBytes.fill 24 3) 0
          (FixedBytes.fill 16 4) "OK" (opened sampleKey)).2.db
        [.accepted, .delivered, .read]).2 = none ∧
      Complete [.delivered, .accepted, .read] ∧
      Complete [.accepted, .delivered, .read] := by
  unfold Complete
  decide +kernel

end ResilientMessenger.Acknowledgements
