import ResilientMessenger.Server.Effects

/-!
# Where the stored events come from

An event row carries no trace of the checks its upload passed: the access token
is gone, the author may have been removed since and a Commit refers to the log
of membership operations by a plain column.  `events_have_provenance` recovers
the checks from the run: for every stored row there was a request that inserted
it, for an author who was signed in and active then, and the operation behind a
Commit was signed by an administrator of that time.  Rows also leave the table,
when their time is over.
-/

namespace ResilientMessenger.EventProvenance

open ResilientMessenger.ByteCodec
open ResilientMessenger.Identity
open ResilientMessenger.Schema
open ResilientMessenger.Backend
open ResilientMessenger.Calls
open ResilientMessenger.Effects
open ResilientMessenger.Runs

/-! ## Retention -/

/-- The order in which the engine happens to visit the rows of a table. -/
structure Scan where
  visit : List EventRow → List EventRow
  perm : ∀ rows, (visit rows).Perm rows

/-- `batch.clamp(1, 10_000)`. -/
def cleanupSize (batch : ℤ) : ℕ := (max 1 (min batch 10000)).toNat

/-- The rows that go: without an order of its own, `LIMIT` keeps the expired
rows that are visited first. -/
def expiredBatch (now : Time) (batch : ℤ) (scan : Scan) (db : Database) :
    List EventRow :=
  ((scan.visit db.groupEvents.rows).filter fun row => row.expiresAt ≤ now).take
    (cleanupSize batch)

/-- The receipts of a deleted event are deleted with it. -/
def cleanupExpiredEvents (now : Time) (batch : ℤ) (scan : Scan) (db : Database) :
    ℕ × Database :=
  let expired := expiredBatch now batch scan db
  let gone := fun eventId : Id16 => expired.any fun row => row.eventId = eventId
  (expired.length,
    { db with
      groupEvents := db.groupEvents.delete fun row => gone row.eventId
      messageReceipts := db.messageReceipts.delete fun row => gone row.eventId })

/-! ## Runs -/

inductive Label where
  | request (request : Request)
  | cleanup (now : Time) (batch : ℤ) (scan : Scan)

def step (crypto : Crypto) (db : Database) : Label → Database
  | .request request => serve crypto db request
  | .cleanup now batch scan => (cleanupExpiredEvents now batch scan db).2

/-- The label is a request that inserts the row, for an author who is signed in
and an active member of the group. -/
def Inserts (crypto : Crypto) (row : EventRow) (db : Database) : Label → Prop
  | .request request =>
      SignedIn crypto request.moment.now request.frame.body db row.authorDeviceId ∧
        activeIn db row.authorDeviceId row.groupId = true ∧
        row ∉ db.groupEvents.rows ∧
        row ∈ (serve crypto db request).groupEvents.rows
  | .cleanup .. => False

/-- The label adds the operation to the log, signed with the device key of an
active administrator of its group. -/
def Approves (crypto : Crypto) (operation : MembershipRow) (db : Database)
    (label : Label) : Prop :=
  operation ∉ db.membershipOperations.rows ∧
    operation ∈ (step crypto db label).membershipOperations.rows ∧
    (∃ member, db.groupMembers.lookup
        (operation.groupId, operation.authorDeviceId) = some member ∧
      member.role = 2 ∧ member.removedAt = none) ∧
    ∃ device, db.devices.lookup operation.authorDeviceId = some device ∧
      crypto.verifies device.devicePublicKey operation.operation
        operation.signature = true

/-- The log holds the operation the row refers to, applied in the same group and
approved by an administrator of that time. -/
def Covered (crypto : Crypto) (labels : List Label) (db : Database)
    (row : EventRow) : Prop :=
  ∃ correlationId operation, row.correlationId = some correlationId ∧
    db.membershipOperations.lookup correlationId = some operation ∧
    operation.groupId = row.groupId ∧ operation.appliedAt.isSome = true ∧
    Once (step crypto) (Approves crypto operation) Database.migrated labels

structure Provenance (crypto : Crypto) (labels : List Label) (db : Database) :
    Prop where
  inserted : ∀ row ∈ db.groupEvents.rows,
    Once (step crypto) (Inserts crypto row) Database.migrated labels
  covered : ∀ row ∈ db.groupEvents.rows, row.eventKind = eventKindMlsCommit →
    Covered crypto labels db row
  messages : (db.groupEvents.rows.map fun row =>
    (row.authorDeviceId, row.clientMessageId)).Nodup
  cursors : (db.groupEvents.rows.map EventRow.eventCursor).Nodup

/-! ## What a label keeps -/

/-- The invariant behind it also speaks about log rows no event refers to. -/
structure Recorded (crypto : Crypto) (labels : List Label) (db : Database) :
    Prop extends Provenance crypto labels db where
  approved : ∀ operation ∈ db.membershipOperations.rows,
    operation.appliedAt.isSome = true ∧
      Once (step crypto) (Approves crypto operation) Database.migrated labels

section Steps

variable {crypto : Crypto} {labels : List Label} {label : Label}
variable {db next : Database}

theorem Covered.mono {row : EventRow} (hcovered : Covered crypto labels db row)
    (hgrows : ∀ operation ∈ db.membershipOperations.rows,
      operation ∈ next.membershipOperations.rows) :
    Covered crypto (labels ++ [label]) next row := by
  obtain ⟨correlationId, operation, hid, hlookup, hgroup, happlied, honce⟩ := hcovered
  have hkept := hgrows operation (Table.mem_of_lookup hlookup)
  refine ⟨correlationId, operation, hid, ?_, hgroup, happlied, once_append honce _⟩
  exact Table.lookup_eq_some_iff.mpr ⟨hkept, Table.key_of_lookup hlookup⟩

/-- Events may go and nothing else happens to them or to the log. -/
theorem recorded_sublist (hrecorded : Recorded crypto labels db)
    (hevents : next.groupEvents.rows.Sublist db.groupEvents.rows)
    (hoperations : next.membershipOperations.rows = db.membershipOperations.rows) :
    Recorded crypto (labels ++ [label]) next where
  inserted := fun row hrow =>
    once_append (hrecorded.inserted row (hevents.subset hrow)) _
  covered := by
    intro row hrow hcommit
    apply (hrecorded.covered row (hevents.subset hrow) hcommit).mono
    intro operation hoperation
    rw [hoperations]
    exact hoperation
  messages := hrecorded.messages.sublist (hevents.map _)
  cursors := hrecorded.cursors.sublist (hevents.map _)
  approved := by
    intro operation hoperation
    rw [hoperations] at hoperation
    obtain ⟨happlied, honce⟩ := hrecorded.approved operation hoperation
    exact ⟨happlied, once_append honce _⟩

/-- An applied operation is approved by the request that logs it. -/
theorem recorded_logged {request : Request} {operation : MembershipOperation}
    (hdb : run (step crypto) Database.migrated labels = db)
    (hnext : serve crypto db request = next)
    (hrecorded : Recorded crypto labels db)
    (hlogged : Logged crypto request.moment.now operation db next) :
    Recorded crypto (labels ++ [.request request]) next := by
  have hrows := hlogged.operations
  have hfresh : logRow request.moment.now operation ∉
      db.membershipOperations.rows := by
    have hnodup := next.membershipOperations.nodup
    rw [hrows, List.map_append, List.nodup_append] at hnodup
    intro hold
    exact hnodup.2.2 _ (List.mem_map_of_mem hold) _ (by simp) rfl
  have happroved : Once (step crypto)
      (Approves crypto (logRow request.moment.now operation)) Database.migrated
      (labels ++ [.request request]) := by
    apply once_last
    rw [hdb]
    refine ⟨hfresh, ?_, hlogged.author, hlogged.signature⟩
    rw [step, hnext, hrows]
    exact List.mem_append_right _ (List.mem_singleton_self _)
  refine
    { inserted := ?_
      covered := ?_
      messages := ?_
      cursors := ?_
      approved := ?_ }
  · intro row hrow
    rw [hlogged.events] at hrow
    exact once_append (hrecorded.inserted row hrow) _
  · intro row hrow hcommit
    rw [hlogged.events] at hrow
    apply (hrecorded.covered row hrow hcommit).mono
    intro stored hstored
    rw [hrows]
    exact List.mem_append_left _ hstored
  · rw [hlogged.events]
    exact hrecorded.messages
  · rw [hlogged.events]
    exact hrecorded.cursors
  · intro stored hstored
    rw [hrows, List.mem_append, List.mem_singleton] at hstored
    rcases hstored with hold | rfl
    · obtain ⟨happlied, honce⟩ := hrecorded.approved stored hold
      exact ⟨happlied, once_append honce _⟩
    · exact ⟨rfl, happroved⟩

theorem appliedOperation_eq_true {correlationId groupId : Id16}
    (happlied : appliedOperation db correlationId groupId = true) :
    ∃ operation, db.membershipOperations.lookup correlationId = some operation ∧
      operation.groupId = groupId ∧ operation.appliedAt.isSome = true := by
  unfold appliedOperation at happlied
  cases hlookup : db.membershipOperations.lookup correlationId with
  | none => simp [hlookup] at happlied
  | some operation =>
      refine ⟨operation, rfl, ?_⟩
      simpa [hlookup] using happlied

/-- A new event passed the checks of its upload. -/
theorem recorded_posted {request : Request} {event : UploadedEvent}
    (hdb : run (step crypto) Database.migrated labels = db)
    (hnext : serve crypto db request = next)
    (hrecorded : Recorded crypto labels db)
    (hsigned : SignedIn crypto request.moment.now request.frame.body db
      event.authorDeviceId)
    (hposted : Posted request.moment.now event db next) :
    Recorded crypto (labels ++ [.request request]) next := by
  have hrows := hposted.appended
  have hoperations := hposted.operations
  refine
    { inserted := ?_
      covered := ?_
      messages := ?_
      cursors := ?_
      approved := ?_ }
  · intro row hrow
    rw [hrows, List.mem_append, List.mem_singleton] at hrow
    rcases hrow with hold | rfl
    · exact once_append (hrecorded.inserted row hold) _
    · apply once_last
      rw [hdb]
      refine ⟨hsigned, hposted.active, ?_, ?_⟩
      · intro hold
        exact (hposted.unique _ hold).1 rfl
      · rw [hnext, hrows]
        exact List.mem_append_right _ (List.mem_singleton_self _)
  · intro row hrow hcommit
    rw [hrows, List.mem_append, List.mem_singleton] at hrow
    rcases hrow with hold | rfl
    · apply (hrecorded.covered row hold hcommit).mono
      intro operation hoperation
      rw [hoperations]
      exact hoperation
    · obtain ⟨correlationId, hid⟩ :=
        Option.ne_none_iff_exists'.mp (hposted.commit hcommit)
      obtain ⟨operation, hlookup, hgroup, happlied⟩ :=
        appliedOperation_eq_true (hposted.correlated correlationId hid)
      have honce := (hrecorded.approved operation (Table.mem_of_lookup hlookup)).2
      refine ⟨correlationId, operation, hid, ?_, hgroup, happlied,
        once_append honce _⟩
      rw [hoperations]
      exact hlookup
  · rw [hrows, List.map_append, List.nodup_append]
    refine ⟨hrecorded.messages, by simp, ?_⟩
    intro stored hstored message hmessage hsame
    obtain ⟨row, hrow, rfl⟩ := List.mem_map.mp hstored
    simp only [List.map_cons, List.map_nil, List.mem_singleton] at hmessage
    rw [hmessage, Prod.mk.injEq] at hsame
    exact (hposted.unique row hrow).2.elim (fun hauthor => hauthor hsame.1)
      fun hclient => hclient hsame.2
  · rw [hrows, List.map_append, List.nodup_append]
    refine ⟨hrecorded.cursors, by simp, ?_⟩
    intro stored hstored cursor hcursor hsame
    obtain ⟨row, hrow, rfl⟩ := List.mem_map.mp hstored
    simp only [List.map_cons, List.map_nil, List.mem_singleton] at hcursor
    exact (hposted.unique row hrow).1 (hsame.trans hcursor)
  · intro operation hoperation
    rw [hoperations] at hoperation
    obtain ⟨happlied, honce⟩ := hrecorded.approved operation hoperation
    exact ⟨happlied, once_append honce _⟩

theorem recorded_step (hdb : run (step crypto) Database.migrated labels = db)
    (hrecorded : Recorded crypto labels db) (label : Label) :
    Recorded crypto (labels ++ [label]) (step crypto db label) := by
  cases label with
  | cleanup now batch scan =>
      exact recorded_sublist hrecorded List.filter_sublist rfl
  | request request =>
      obtain ⟨caller, hcaller, heffect⟩ := serve_effect crypto db request
      rw [step]
      generalize hnext : serve crypto db request = next at heffect ⊢
      cases heffect with
      | quiet hquiet =>
          apply recorded_sublist hrecorded
          · rw [hquiet.events]
          · rw [hquiet.operations]
      | created groupId creator device hdevice hgroup hmember =>
          exact recorded_sublist hrecorded (List.Sublist.refl _) rfl
      | removed operation hremove hlogged member htarget hmembers =>
          exact recorded_logged hdb hnext hrecorded hlogged
      | admitted operation hadmitted hlogged device hdevice hmembers =>
          exact recorded_logged hdb hnext hrecorded hlogged
      | posted event hauthor hposted =>
          exact recorded_posted hdb hnext hrecorded (hcaller _ hauthor) hposted

end Steps

/-- Every stored event was inserted for an author who was signed in and active
in its group, the operation behind every stored Commit was approved by an
administrator, and no message and no cursor is stored twice. -/
theorem events_have_provenance (crypto : Crypto) (labels : List Label) :
    Provenance crypto labels (run (step crypto) Database.migrated labels) := by
  have hrecorded : Recorded crypto labels
      (run (step crypto) Database.migrated labels) := by
    apply run_history
    · exact ⟨⟨by simp [Database.migrated, Table.empty],
        by simp [Database.migrated, Table.empty], List.nodup_nil, List.nodup_nil⟩,
        by simp [Database.migrated, Table.empty]⟩
    · intro labels label hrecorded
      exact recorded_step rfl hrecorded label
  exact hrecorded.toProvenance

end ResilientMessenger.EventProvenance
