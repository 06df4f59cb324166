import ResilientMessenger.Server.EventProvenance
import ResilientMessenger.Server.GroupCursors

/-!
# Repeated requests

A client that has not seen an answer repeats its request.  Two calls check a
repetition against state that their first execution, or retention, may have
taken away.  `advance_group_cursor` compares the cursor with the newest event
that is still stored, so an acknowledgement stops being repeatable once the
events at and above it have been deleted.  `apply_membership_operation` asks for
an administrator before it looks for the logged operation, so administrators who
removed or demoted themselves are refused.
-/

namespace ResilientMessenger.Replays

open ResilientMessenger.ByteCodec
open ResilientMessenger.Identity
open ResilientMessenger.Schema
open ResilientMessenger.Backend
open ResilientMessenger.Transaction
open ResilientMessenger.Calls
open ResilientMessenger.Effects
open ResilientMessenger.EventProvenance (Scan cleanupExpiredEvents)
open ResilientMessenger.GroupCursors
open ResilientMessenger.Runs

/-! ## Acknowledgements -/

/-- What happens to the store.  The calls that only read, `sync_group` among
them, leave it as it is. -/
inductive Label where
  | call (moment : Moment) (call : Calls.Call)
  | advance (deviceId groupId : Id16) (cursor : ℤ)
  | cleanup (now : Time) (batch : ℤ) (scan : Scan)

def step (crypto : Crypto) (db : Database) : Label → Database
  | .call moment call => call.perform crypto moment db
  | .advance deviceId groupId cursor =>
      (advanceGroupCursor deviceId groupId cursor db).2
  | .cleanup now batch scan => (cleanupExpiredEvents now batch scan db).2

/-- The acknowledgement is accepted and leaves the cursor at its value. -/
def Accepts (deviceId groupId : Id16) (cursor : ℤ) (db : Database) : Prop :=
  (advanceGroupCursor deviceId groupId cursor db).1 = .ok () ∧
    committed (advanceGroupCursor deviceId groupId cursor db).2
      (deviceId, groupId) = some cursor

/-- The group still has an event that the cursor does not exceed.  A group
without events has been read up to 0. -/
def Retained (groupId : Id16) (cursor : ℤ) (db : Database) : Prop :=
  (∃ row ∈ db.groupEvents.rows, row.groupId = groupId ∧ cursor ≤ row.eventCursor) ∨
    cursor ≤ 0 ∧ ∀ row ∈ db.groupEvents.rows, row.groupId ≠ groupId

/-- `P` holds of every acknowledgement that was accepted earlier in the run,
is still the stored one and belongs to a device that is still a member. -/
def AtRepetitions (P : Id16 → Id16 → ℤ → Database → Prop) (crypto : Crypto)
    (start : Database) (labels : List Label) : Prop :=
  ∀ before between after deviceId groupId cursor,
    labels = before ++ .advance deviceId groupId cursor :: between ++ after →
    (advanceGroupCursor deviceId groupId cursor
      (run (step crypto) start before)).1 = .ok () →
    committed (run (step crypto) start
      (before ++ .advance deviceId groupId cursor :: between))
      (deviceId, groupId) = some cursor →
    activeIn (run (step crypto) start
      (before ++ .advance deviceId groupId cursor :: between))
      deviceId groupId = true →
    P deviceId groupId cursor (run (step crypto) start
      (before ++ .advance deviceId groupId cursor :: between))

theorem le_available_iff (groupId : Id16) (cursor : ℤ) (db : Database) :
    cursor ≤ available groupId db ↔ Retained groupId cursor db := by
  unfold available Retained
  cases hmax : ((db.groupEvents.rows.filter fun row => row.groupId = groupId).map
      EventRow.eventCursor).max? with
  | none =>
      have hnone : ∀ row ∈ db.groupEvents.rows, row.groupId ≠ groupId := by
        simpa using hmax
      constructor
      · intro hle
        exact .inr ⟨hle, hnone⟩
      · rintro (⟨row, hrow, hgroup, -⟩ | ⟨hle, -⟩)
        · exact absurd hgroup (hnone row hrow)
        · exact hle
  | some newest =>
      obtain ⟨hmem, hbound⟩ := List.max?_eq_some_iff.mp hmax
      obtain ⟨row, hrow, hcursor⟩ := List.mem_map.mp hmem
      have hrow' : row ∈ db.groupEvents.rows ∧ row.groupId = groupId := by
        simpa using hrow
      constructor
      · intro hle
        exact .inl ⟨row, hrow'.1, hrow'.2, hle.trans_eq hcursor.symm⟩
      · rintro (⟨other, hother, hgroup, hle⟩ | ⟨-, hnone⟩)
        · apply hle.trans
          apply hbound
          exact List.mem_map_of_mem (by simpa using ⟨hother, hgroup⟩)
        · exact absurd hrow'.2 (hnone row hrow'.1)

theorem assertActiveMember_of_active {db : Database} {deviceId groupId : Id16}
    (hactive : activeIn db deviceId groupId = true) :
    assertActiveMember groupId deviceId db = .ok () :=
  if_pos hactive

/-- The checks an accepted acknowledgement has passed. -/
theorem advanceGroupCursor_eq_ok {deviceId groupId : Id16} {cursor : ℤ}
    {db : Database}
    (hok : (advanceGroupCursor deviceId groupId cursor db).1 = .ok ()) :
    cursor ≤ available groupId db ∧
      cursorAllowed ⟨deviceId, groupId, cursor⟩ db = true := by
  cases hmember : assertActiveMember groupId deviceId db with
  | error failure =>
      have houtcome : advanceGroupCursor deviceId groupId cursor db =
          (.error failure, db) := by
        apply transaction_of_error
        rw [hmember]
        rfl
      rw [houtcome] at hok
      cases hok
  | ok _ =>
      rw [advanceGroupCursor_of_member hmember] at hok
      split_ifs at hok with hregression hbeyond hrefused
      exact ⟨not_lt.mp hbeyond, by simpa using hrefused⟩

/-- A repetition of the stored cursor is accepted exactly when the store still
has an event for it to refer to. -/
theorem accepts_iff_retained {deviceId groupId : Id16} {cursor : ℤ} {db : Database}
    (hallowed : cursorAllowed ⟨deviceId, groupId, cursor⟩ db = true)
    (hstored : committed db (deviceId, groupId) = some cursor)
    (hactive : activeIn db deviceId groupId = true) :
    Accepts deviceId groupId cursor db ↔ Retained groupId cursor db := by
  have hmember := assertActiveMember_of_active hactive
  rw [← le_available_iff]
  constructor
  · intro haccepts
    exact (advanceGroupCursor_eq_ok haccepts.1).1
  · intro havailable
    have houtcome : advanceGroupCursor deviceId groupId cursor db =
        (.ok (), writeCursor ⟨deviceId, groupId, cursor⟩ db) := by
      rw [advanceGroupCursor_of_member hmember, hstored, if_neg (by simp),
        if_neg (not_lt.mpr havailable), if_neg (by simp [hallowed])]
    rw [Accepts, houtcome]
    refine ⟨rfl, ?_⟩
    rw [committed_writeCursor]
    exact if_pos rfl

/-- Devices and groups that are known stay known. -/
structure Kept (db next : Database) : Prop where
  devices : ∀ deviceId, db.hasDevice deviceId = true → next.hasDevice deviceId = true
  groups : ∀ groupId, db.hasGroup groupId = true → next.hasGroup groupId = true

theorem kept_of_same {db next : Database} (hdevices : next.devices = db.devices)
    (hgroups : next.groups = db.groups) : Kept db next where
  devices := by
    intro deviceId hdevice
    rw [Database.hasDevice, hdevices]
    exact hdevice
  groups := by
    intro groupId hgroup
    rw [Database.hasGroup, hgroups]
    exact hgroup

theorem kept_of_effect {crypto : Crypto} {now : Time} {caller : Option Id16}
    {db next : Database} (heffect : Effect crypto now caller db next) :
    Kept db next := by
  cases heffect with
  | quiet hquiet =>
      constructor
      · intro deviceId hdevice
        obtain ⟨row, hrow⟩ := Option.isSome_iff_exists.mp hdevice
        exact Option.isSome_iff_exists.mpr ⟨row, hquiet.devices deviceId row hrow⟩
      · intro groupId hgroup
        rw [Database.hasGroup, hquiet.groups]
        exact hgroup
  | created groupId creator device hdevice hgroup hmember =>
      refine ⟨fun _ hknown => hknown, ?_⟩
      intro other hother
      rw [Database.hasGroup, Table.lookup_insert? hgroup]
      split
      · rfl
      · exact hother
  | removed operation hremove hlogged member htarget hmembers =>
      exact kept_of_same hlogged.devices hlogged.groups
  | admitted operation hadmitted hlogged device hdevice hmembers =>
      exact kept_of_same hlogged.devices hlogged.groups
  | posted event hauthor hposted =>
      exact kept_of_same hposted.devices hposted.groups

/-- An acknowledgement touches no table but its own. -/
theorem advanceGroupCursor_extent (deviceId groupId : Id16) (cursor : ℤ)
    (db : Database) :
    ∃ deviceGroupCursors, (advanceGroupCursor deviceId groupId cursor db).2 =
      { db with deviceGroupCursors } := by
  cases hmember : assertActiveMember groupId deviceId db with
  | error failure =>
      refine ⟨db.deviceGroupCursors, ?_⟩
      have houtcome : advanceGroupCursor deviceId groupId cursor db =
          (.error failure, db) := by
        apply transaction_of_error
        rw [hmember]
        rfl
      rw [houtcome]
  | ok _ =>
      rw [advanceGroupCursor_of_member hmember]
      split_ifs
      · exact ⟨db.deviceGroupCursors, rfl⟩
      · exact ⟨db.deviceGroupCursors, rfl⟩
      · exact ⟨db.deviceGroupCursors, rfl⟩
      · exact ⟨_, rfl⟩

theorem kept_step (crypto : Crypto) (db : Database) (label : Label) :
    Kept db (step crypto db label) := by
  cases label with
  | call moment call => exact kept_of_effect (perform_effect crypto moment db call)
  | advance deviceId groupId cursor =>
      obtain ⟨cursors, hextent⟩ :=
        advanceGroupCursor_extent deviceId groupId cursor db
      rw [step, hextent]
      exact kept_of_same rfl rfl
  | cleanup now batch scan => exact kept_of_same rfl rfl

/-- A cursor the constraints admit stays admissible. -/
theorem cursorAllowed_run (crypto : Crypto) {row : GroupCursorRow} {db : Database}
    (hallowed : cursorAllowed row db = true) (labels : List Label) :
    cursorAllowed row (run (step crypto) db labels) = true := by
  apply run_invariant (P := fun db => cursorAllowed row db = true) _ hallowed
  intro db label hallowed
  have hkept := kept_step crypto db label
  simp only [cursorAllowed, Bool.and_eq_true] at hallowed ⊢
  exact ⟨⟨hkept.devices _ hallowed.1.1, hkept.groups _ hallowed.1.2⟩, hallowed.2⟩

/-- In every run the accepted acknowledgements can be repeated exactly as long
as retention leaves their group an event at or above the cursor. -/
theorem acknowledgements_repeat_iff_retained (crypto : Crypto) (start : Database)
    (labels : List Label) :
    AtRepetitions Accepts crypto start labels ↔
      AtRepetitions (fun _ => Retained) crypto start labels := by
  unfold AtRepetitions
  refine forall₂_congr fun before between => forall₂_congr fun after deviceId =>
    forall₂_congr fun groupId cursor => forall₂_congr fun hlabels hfirst =>
      forall₂_congr fun hstored hactive => ?_
  have hallowed := cursorAllowed_run crypto (advanceGroupCursor_eq_ok hfirst).2
    (.advance deviceId groupId cursor :: between)
  rw [← run_append] at hallowed
  exact accepts_iff_retained hallowed hstored hactive

/-- A scan in storage order. -/
def sequential : Scan := ⟨id, List.Perm.refl⟩

/-- The only event of the group is uploaded and acknowledged; a week later it is
deleted. -/
def acknowledgedThenExpired : List Label :=
  [.call Redelivery.sampleMoment (.uploadEvent (CursorVisibility.sampleEvent 1)),
    .advance (FixedBytes.fill 16 3) (FixedBytes.fill 16 5) 1,
    .cleanup (seconds eventTtlSeconds) 100 sequential]

theorem expired_acknowledgement_refused :
    ¬AtRepetitions Accepts Redelivery.sampleCrypto Redelivery.sampleServer
      acknowledgedThenExpired := by
  intro hrepeat
  have haccepts := hrepeat
    [.call Redelivery.sampleMoment (.uploadEvent (CursorVisibility.sampleEvent 1))]
    [.cleanup (seconds eventTtlSeconds) 100 sequential] []
    (FixedBytes.fill 16 3) (FixedBytes.fill 16 5) 1 rfl (by decide +kernel)
    (by decide +kernel) (by decide +kernel)
  exact absurd haccepts.1 (by decide +kernel)

/-! ## Membership operations -/

/-- The device is an active administrator of the group. -/
def administers (db : Database) (groupId deviceId : Id16) : Bool :=
  (db.groupMembers.lookup (groupId, deviceId)).any fun member =>
    member.role = 2 ∧ member.removedAt.isNone

/-- The operation does not take the administrator's role from its own author. -/
def KeepsAuthor (request : MembershipOperation) : Prop :=
  request.targetDeviceId ≠ request.authorDeviceId ∨
    request.remove = false ∧ request.role = 2

theorem lookup_logged {crypto : Crypto} {now : Time} {request : MembershipOperation}
    {db next : Database} (hlogged : Logged crypto now request db next) :
    next.membershipOperations.lookup request.correlationId =
      some (logRow now request) := by
  apply Table.lookup_eq_some_iff.mpr
  rw [hlogged.operations]
  exact ⟨List.mem_append_right _ (List.mem_singleton_self _), rfl⟩

/-- A request that has been logged is answered by the log if its author is
still an administrator. -/
theorem applyMembershipOperation_logged {crypto : Crypto} {now : Time}
    {request : MembershipOperation} {db next : Database}
    (hlogged : Logged crypto now request db next) (later : Time) :
    applyMembershipOperation crypto later request next =
      if administers next request.groupId request.authorDeviceId then
        (.ok true, next)
      else (.error .unauthorized, next) := by
  have hrole : ¬(request.role < 0 ∨ 2 < request.role) := by
    have hrange := hlogged.role
    omega
  obtain ⟨device, hdevice, hverifies⟩ := hlogged.signature
  rw [← hlogged.devices] at hdevice
  unfold payload at hverifies
  unfold applyMembershipOperation
  rw [if_neg hrole]
  by_cases hadmin : administers next request.groupId request.authorDeviceId = true
  · rw [if_pos hadmin]
    apply transaction_of_ok
    obtain ⟨member, hmember, hactive⟩ := (Option.any_eq_true _ _).mp hadmin
    have hauthor : (next.groupMembers.lookup
        (request.groupId, request.authorDeviceId)).filter (fun member =>
          member.role = 2 ∧ member.removedAt.isNone) = some member :=
      Option.filter_eq_some_iff.mpr ⟨hmember, hactive⟩
    simp only [hauthor, hdevice, hverifies, lookup_logged hlogged, Bool.not_true]
    simp [logRow, payload]
  · rw [if_neg hadmin]
    apply transaction_of_error
    have hauthor : (next.groupMembers.lookup
        (request.groupId, request.authorDeviceId)).filter (fun member =>
          member.role = 2 ∧ member.removedAt.isNone) = none := by
      apply Option.filter_eq_none_iff.mpr
      intro member hmember hactive
      exact hadmin ((Option.any_eq_true _ _).mpr ⟨member, hmember, hactive⟩)
    simp only [hauthor]

/-- An applied operation leaves its author an administrator exactly when it is
not the author's own removal or demotion. -/
theorem administers_iff_keepsAuthor {crypto : Crypto} {now : Time}
    {request : MembershipOperation} {db next : Database}
    (hlogged : Logged crypto now request db next)
    (hmembers : Reassigns now request db next) :
    administers next request.groupId request.authorDeviceId = true ↔
      KeepsAuthor request := by
  by_cases hself : request.targetDeviceId = request.authorDeviceId
  · rcases hmembers with ⟨hremove, member, -, hmembers⟩ |
      ⟨hadmitted, device, -, hmembers⟩
    · simp [administers, hmembers, hself, KeepsAuthor, hremove]
    · simp [administers, hmembers, hself, KeepsAuthor, hadmitted]
  · have hother : (request.groupId, request.authorDeviceId) ≠
        (request.groupId, request.targetDeviceId) := by
      intro hsame
      exact hself (Prod.mk.inj hsame).2.symm
    have hsame : next.groupMembers.lookup
        (request.groupId, request.authorDeviceId) =
        db.groupMembers.lookup (request.groupId, request.authorDeviceId) := by
      rcases hmembers with ⟨-, member, -, hmembers⟩ | ⟨-, device, -, hmembers⟩
      · rw [hmembers, if_neg hother]
      · rw [hmembers, if_neg hother]
    obtain ⟨member, hmember, hrole, hactive⟩ := hlogged.author
    apply iff_of_true
    · simp [administers, hsame, hmember, hrole, hactive]
    · exact .inl hself

/-- After an operation has been applied, the same request is answered with
`true` and changes nothing exactly when its author has kept the role. -/
theorem replay_recognised_iff (crypto : Crypto) (now later : Time)
    (request : MembershipOperation) (db : Database)
    (hfirst : (applyMembershipOperation crypto now request db).1 = .ok false) :
    applyMembershipOperation crypto later request
        (applyMembershipOperation crypto now request db).2 =
      (.ok true, (applyMembershipOperation crypto now request db).2) ↔
      KeepsAuthor request := by
  rcases applyMembershipOperation_cases crypto now request db with
    ⟨result, hresult, houtcome⟩ | ⟨_, _, houtcome, hlogged, hmembers⟩
  · rw [houtcome] at hfirst
    exact absurd hfirst hresult
  rw [houtcome, applyMembershipOperation_logged hlogged,
    ← administers_iff_keepsAuthor hlogged hmembers]
  split
  case isTrue hadmin => simp [hadmin]
  case isFalse hadmin => simp [hadmin]

/-- The sample server with a device key whose signatures can be checked. -/
def foundedServer : Database :=
  { Redelivery.sampleServer with
    devices := ⟨[⟨FixedBytes.fill 16 3, FixedBytes.fill 32 1,
      SignatureScheme.neutralKey, none⟩], List.nodup_singleton _⟩ }

/-- The founder of the group renews its own role, or gives it up. -/
def ownOperation (role : ℤ) (remove : Bool) : MembershipOperation where
  correlationId := FixedBytes.fill 16 20
  groupId := FixedBytes.fill 16 5
  authorDeviceId := FixedBytes.fill 16 3
  targetDeviceId := FixedBytes.fill 16 3
  role
  remove
  signature := SignatureScheme.neutralSignature

theorem renewal_recognised :
    applyMembershipOperation Redelivery.sampleCrypto 1 (ownOperation 2 false)
        (applyMembershipOperation Redelivery.sampleCrypto 0 (ownOperation 2 false)
          foundedServer).2 =
      (.ok true, (applyMembershipOperation Redelivery.sampleCrypto 0
        (ownOperation 2 false) foundedServer).2) :=
  (replay_recognised_iff Redelivery.sampleCrypto 0 1 (ownOperation 2 false)
    foundedServer (by decide +kernel)).mpr (.inr ⟨rfl, rfl⟩)

/-- The repeated request of an administrator who has left is refused. -/
theorem departure_not_recognised :
    (applyMembershipOperation Redelivery.sampleCrypto 0 (ownOperation 2 true)
        foundedServer).1 = .ok false ∧
      (applyMembershipOperation Redelivery.sampleCrypto 0 (ownOperation 2 true)
        (applyMembershipOperation Redelivery.sampleCrypto 0 (ownOperation 2 true)
          foundedServer).2).1 = .error .unauthorized := by
  decide +kernel

end ResilientMessenger.Replays
