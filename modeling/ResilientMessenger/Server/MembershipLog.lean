import ResilientMessenger.Server.Effects

/-!
# Groups as projections of their signed logs

The members of a group are stored beside the log of membership operations.  A
log row keeps the payload its author signed, so the members a group should have
can be computed from the log alone: start with the creator and replay the
payloads.  `members_follow_log` proves that the stored members are that
projection after every run of requests.
-/

namespace ResilientMessenger.MembershipLog

open ResilientMessenger.ByteCodec
open ResilientMessenger.ByteReader
open ResilientMessenger.Identity
open ResilientMessenger.Schema
open ResilientMessenger.Backend
open ResilientMessenger.Calls
open ResilientMessenger.Effects
open ResilientMessenger.Runs

/-! ## Payloads -/

/-- What a signed payload says. -/
structure Change where
  correlationId : Id16
  groupId : Id16
  authorDeviceId : Id16
  targetDeviceId : Id16
  role : ℤ
  remove : Bool
  deriving DecidableEq

namespace Change

def reader : Reader Unit Change := do
  let domain ← take () 33
  ensure (domain = ascii "resilient/membership-operation/v1") ()
  let correlationId ← array () 16
  let groupId ← array () 16
  let authorDeviceId ← array () 16
  let targetDeviceId ← array () 16
  let role ← word () 2
  let remove ← byte ()
  finish ()
  pure ⟨correlationId, groupId, authorDeviceId, targetDeviceId, signed 16 role,
    remove = 1⟩

/-- The change a payload describes, if it is one. -/
def parse (operation : Bytes) : Option Change :=
  (decodeWith reader operation).toOption

def ofRequest (request : MembershipOperation) : Change where
  correlationId := request.correlationId
  groupId := request.groupId
  authorDeviceId := request.authorDeviceId
  targetDeviceId := request.targetDeviceId
  role := request.role
  remove := request.remove

/-- A payload says what the request it was built from says. -/
theorem parse_payload {request : MembershipOperation}
    (hrole : 0 ≤ request.role ∧ request.role ≤ 2) :
    parse (payload request) = some (ofRequest request) := by
  have hword : unsigned 16 request.role = request.role.toNat := by
    unfold unsigned
    rw [Int.emod_eq_of_lt hrole.1 (by omega)]
  have hsigned : signed 16 request.role.toNat = request.role := by
    unfold signed
    rw [if_pos (by omega)]
    omega
  have hdecode : decodeWith reader (payload request) = .ok (ofRequest request) := by
    rw [decodeWith_eq_ok]
    refine ⟨[], ?_⟩
    simp only [reader, bind_eq_ok, take_eq_ok, ensure_eq_ok, array_eq_ok, word_eq_ok,
      byte_eq_ok, finish_eq_ok, pure_eq_ok, payload, membershipOperationPayload,
      List.append_assoc]
    refine ⟨_, _, ⟨?_, rfl⟩, (), _, ⟨decide_eq_true rfl, rfl⟩, _, _, rfl, _, _, rfl,
      _, _, rfl, _, _, rfl, request.role.toNat, _, ⟨by omega, by rw [hword]⟩, _, _,
      rfl, (), _, ⟨rfl, rfl⟩, ?_⟩
    · decide
    · cases hremove : request.remove <;> simp [ofRequest, hsigned, hremove]
  rw [parse, hdecode]
  rfl

end Change

/-! ## Replaying a log -/

/-- What a device is in a group: its role and when it was removed. -/
structure Standing where
  role : ℤ
  removedAt : Option Time
  deriving DecidableEq

def Standing.ofMember (member : MemberRow) : Standing :=
  ⟨member.role, member.removedAt⟩

/-- An active administrator. -/
def Standing.admin : Standing := ⟨2, none⟩

/-- The standings of all devices in one group. -/
abbrev Standings := Id16 → Option Standing

/-- The creator is the only member. -/
def founded (creator : Id16) : Standings := fun deviceId =>
  if deviceId = creator then some Standing.admin else none

/-- The standings after a change that was applied at `appliedAt`. -/
def Change.apply (change : Change) (appliedAt : Option Time)
    (standings : Standings) : Standings :=
  Function.update standings change.targetDeviceId
    (if change.remove then
      (standings change.targetDeviceId).map fun standing =>
        { standing with removedAt := appliedAt }
    else some ⟨change.role, none⟩)

/-- Replay one log row; a row whose payload cannot be read changes nothing. -/
def replayRow (standings : Standings) (row : MembershipRow) : Standings :=
  match Change.parse row.operation with
  | some change => change.apply row.appliedAt standings
  | none => standings

/-- The standings a log results in. -/
def replay (creator : Id16) (log : List MembershipRow) : Standings :=
  run replayRow (founded creator) log

/-- The author of the row is an active administrator. -/
def Authorized (standings : Standings) (row : MembershipRow) : Prop :=
  standings row.authorDeviceId = some Standing.admin

/-- The log of one group, in commit order. -/
def logOf (db : Database) (groupId : Id16) : List MembershipRow :=
  db.membershipOperations.rows.filter fun row => row.groupId = groupId

/-- The standings the members table holds for one group. -/
def stored (db : Database) (groupId : Id16) : Standings := fun deviceId =>
  (db.groupMembers.lookup (groupId, deviceId)).map Standing.ofMember

/-- The members of a group are what its log says, and every row of the log was
written by someone who was an administrator then. -/
structure FollowsLog (db : Database) (group : GroupRow) : Prop where
  members : stored db group.groupId =
    replay group.createdByDeviceId (logOf db group.groupId)
  authors : Guarded replayRow Authorized (founded group.createdByDeviceId)
    (logOf db group.groupId)

/-- The row keeps its own payload, under a signature of its author. -/
structure SoundRow (crypto : Crypto) (db : Database) (row : MembershipRow) :
    Prop where
  payload : ∃ change, Change.parse row.operation = some change ∧
    change.correlationId = row.correlationId ∧ change.groupId = row.groupId ∧
      change.authorDeviceId = row.authorDeviceId
  applied : row.appliedAt.isSome = true
  group : (db.groups.lookup row.groupId).isSome = true
  signature : ∃ device, db.devices.lookup row.authorDeviceId = some device ∧
    crypto.verifies device.devicePublicKey row.operation row.signature = true

/-- The member row belongs to a group and names the account of its device. -/
structure SoundMember (db : Database) (member : MemberRow) : Prop where
  group : (db.groups.lookup member.groupId).isSome = true
  account : ∃ device, db.devices.lookup member.deviceId = some device ∧
    device.accountId = member.accountId

/-- The group tables are the projection of the signed log. -/
structure Projected (crypto : Crypto) (db : Database) : Prop where
  groups : ∀ group ∈ db.groups.rows, FollowsLog db group
  log : ∀ row ∈ db.membershipOperations.rows, SoundRow crypto db row
  members : ∀ key member, db.groupMembers.lookup key = some member →
    SoundMember db member
  correlations :
    (db.membershipOperations.rows.map MembershipRow.correlationId).Nodup

/-! ## What a call keeps -/

section Steps

variable {crypto : Crypto} {now : Time} {db next : Database}

/-- No row is lost when the groups and devices only grow. -/
theorem SoundRow.mono {row : MembershipRow} (hrow : SoundRow crypto db row)
    (hdevices : ∀ deviceId device, db.devices.lookup deviceId = some device →
      next.devices.lookup deviceId = some device)
    (hgroups : ∀ groupId, (db.groups.lookup groupId).isSome = true →
      (next.groups.lookup groupId).isSome = true) : SoundRow crypto next row where
  payload := hrow.payload
  applied := hrow.applied
  group := hgroups _ hrow.group
  signature := by
    obtain ⟨device, hdevice, hsigned⟩ := hrow.signature
    exact ⟨device, hdevices _ _ hdevice, hsigned⟩

theorem SoundMember.mono {member : MemberRow} (hmember : SoundMember db member)
    (hdevices : ∀ deviceId device, db.devices.lookup deviceId = some device →
      next.devices.lookup deviceId = some device)
    (hgroups : ∀ groupId, (db.groups.lookup groupId).isSome = true →
      (next.groups.lookup groupId).isSome = true) : SoundMember next member where
  group := hgroups _ hmember.group
  account := by
    obtain ⟨device, hdevice, haccount⟩ := hmember.account
    exact ⟨device, hdevices _ _ hdevice, haccount⟩

theorem followsLog_congr {group : GroupRow} (hfollows : FollowsLog db group)
    (hstored : stored next group.groupId = stored db group.groupId)
    (hlog : logOf next group.groupId = logOf db group.groupId) :
    FollowsLog next group where
  members := by rw [hstored, hlog, hfollows.members]
  authors := by rw [hlog]; exact hfollows.authors

/-- Nothing is lost when groups, members and operations stay as they are. -/
theorem projected_congr (hprojected : Projected crypto db)
    (hdevices : ∀ deviceId device, db.devices.lookup deviceId = some device →
      next.devices.lookup deviceId = some device)
    (hgroups : next.groups = db.groups)
    (hmembers : next.groupMembers = db.groupMembers)
    (hoperations : next.membershipOperations = db.membershipOperations) :
    Projected crypto next := by
  have hknown : ∀ groupId, (db.groups.lookup groupId).isSome = true →
      (next.groups.lookup groupId).isSome = true := by
    intro groupId hgroup
    rw [hgroups]
    exact hgroup
  constructor
  · intro group hgroup
    rw [hgroups] at hgroup
    apply followsLog_congr (hprojected.groups group hgroup)
    · funext deviceId
      simp only [stored, hmembers]
    · simp only [logOf, hoperations]
  · intro row hrow
    rw [hoperations] at hrow
    exact (hprojected.log row hrow).mono hdevices hknown
  · intro key member hmember
    rw [hmembers] at hmember
    exact (hprojected.members key member hmember).mono hdevices hknown
  · exact next.membershipOperations.nodup

/-- Nothing is logged for a group that does not exist yet, and it has no
members. -/
theorem logOf_of_free {groupId : Id16} (hprojected : Projected crypto db)
    (hfree : db.groups.lookup groupId = none) : logOf db groupId = [] := by
  apply List.filter_eq_nil_iff.mpr
  intro row hrow hsame
  have hlogged := (hprojected.log row hrow).group
  rw [of_decide_eq_true hsame, hfree] at hlogged
  cases hlogged

theorem members_of_free {groupId deviceId : Id16} (hprojected : Projected crypto db)
    (hfree : db.groups.lookup groupId = none) :
    db.groupMembers.lookup (groupId, deviceId) = none := by
  cases hfound : db.groupMembers.lookup (groupId, deviceId) with
  | none => rfl
  | some member =>
      have hknown := (hprojected.members _ _ hfound).group
      have hkey := Table.key_of_lookup hfound
      simp only [MemberRow.key, Prod.mk.injEq] at hkey
      rw [hkey.1, hfree] at hknown
      cases hknown

/-- A new group has no log yet and its creator as its only member. -/
theorem projected_created {groupId creator : Id16} {device : DeviceRow}
    {groups : Table GroupRow.groupId} {groupMembers : Table MemberRow.key}
    (hprojected : Projected crypto db)
    (hdevice : db.devices.lookup creator = some device)
    (hgroup : db.groups.insert? ⟨groupId, creator⟩ = some groups)
    (hmember : db.groupMembers.insert?
      ⟨groupId, creator, device.accountId, 2, none⟩ = some groupMembers) :
    Projected crypto { db with groups, groupMembers } := by
  obtain ⟨hfree, hrows⟩ := Table.insert?_eq_some_iff.mp hgroup
  have hlookup := Table.lookup_insert? hmember
  have hgroups : ∀ other, (db.groups.lookup other).isSome = true →
      (groups.lookup other).isSome = true := by
    intro other hother
    rw [Table.lookup_insert? hgroup]
    split
    · rfl
    · exact hother
  constructor
  · intro group hmem
    simp only [hrows, List.mem_append, List.mem_singleton] at hmem
    rcases hmem with hold | rfl
    · have hother : group.groupId ≠ groupId := by
        intro hsame
        have hfound := Table.mem_rows_iff.mp hold
        rw [hsame, hfree] at hfound
        cases hfound
      apply followsLog_congr (hprojected.groups group hold)
      · funext deviceId
        simp [stored, hlookup, MemberRow.key, hother]
      · rfl
    · have hempty : logOf { db with groups, groupMembers } groupId = [] := by
        change logOf db groupId = []
        exact logOf_of_free hprojected hfree
      have hfounded : stored { db with groups, groupMembers } groupId =
          founded creator := by
        funext deviceId
        by_cases hcreator : deviceId = creator
        · simp [stored, founded, hlookup, MemberRow.key, hcreator,
            Standing.ofMember, Standing.admin]
        · have hnone : db.groupMembers.lookup (groupId, deviceId) = none :=
            members_of_free hprojected hfree
          simp [stored, founded, hlookup, MemberRow.key, hcreator, hnone]
      exact ⟨by rw [hempty, hfounded]; rfl, by rw [hempty]; trivial⟩
  · intro row hrow
    exact (hprojected.log row hrow).mono (fun _ _ hfound => hfound) hgroups
  · intro key member hfound
    rw [hlookup] at hfound
    split at hfound
    · cases hfound
      refine ⟨?_, device, hdevice, rfl⟩
      rw [Table.lookup_insert? hgroup, if_pos rfl]
      rfl
    · exact (hprojected.members key member hfound).mono (fun _ _ hfound => hfound)
        hgroups
  · exact db.membershipOperations.nodup

/-! ## Membership operations -/

variable {request : MembershipOperation}

theorem logOf_logged (hlogged : Logged crypto now request db next) (groupId : Id16) :
    logOf next groupId = logOf db groupId ++
      if groupId = request.groupId then [logRow now request] else [] := by
  unfold logOf
  rw [hlogged.operations, List.filter_append]
  congr 1
  by_cases hgroup : groupId = request.groupId
  · subst hgroup
    simp [logRow]
  · have hother : request.groupId ≠ groupId := fun hsame => hgroup hsame.symm
    simp [logRow, hgroup, hother]

theorem replayRow_logRow (hrole : 0 ≤ request.role ∧ request.role ≤ 2)
    (standings : Standings) :
    replayRow standings (logRow now request) =
      (Change.ofRequest request).apply (some now) standings := by
  simp only [replayRow, logRow, Change.parse_payload hrole]

/-- The log of a group replays to its members after an operation, too. -/
theorem followsLog_logged {group : GroupRow} (hfollows : FollowsLog db group)
    (hlogged : Logged crypto now request db next)
    (htarget : group.groupId = request.groupId)
    (hreplayed : stored next group.groupId =
      replayRow (stored db group.groupId) (logRow now request)) :
    FollowsLog next group := by
  have hlog := logOf_logged hlogged group.groupId
  rw [if_pos htarget] at hlog
  constructor
  · rw [hreplayed, hfollows.members, hlog, replay, replay, run_append, run_cons,
      run_nil]
  · rw [hlog, guarded_append]
    refine ⟨hfollows.authors, ?_, trivial⟩
    obtain ⟨author, hauthor, hadmin, hactive⟩ := hlogged.author
    have hreplay : run replayRow (founded group.createdByDeviceId)
        (logOf db group.groupId) = stored db group.groupId :=
      hfollows.members.symm
    rw [Authorized, hreplay, htarget]
    simp [stored, logRow, hauthor, Standing.ofMember, Standing.admin, hadmin,
      hactive]

/-- An applied operation changes the members the way its payload says. -/
theorem projected_logged {member : MemberRow} (hprojected : Projected crypto db)
    (hlogged : Logged crypto now request db next)
    (hsound : SoundMember db member)
    (hmembers : ∀ key, next.groupMembers.lookup key =
      if key = (request.groupId, request.targetDeviceId) then some member
      else db.groupMembers.lookup key)
    (hstanding : (Change.ofRequest request).apply (some now)
        (stored db request.groupId) request.targetDeviceId =
      some (Standing.ofMember member)) :
    Projected crypto next := by
  have hdevices : ∀ deviceId device, db.devices.lookup deviceId = some device →
      next.devices.lookup deviceId = some device := by
    intro deviceId device hdevice
    rw [hlogged.devices]
    exact hdevice
  have hgroups : ∀ groupId, (db.groups.lookup groupId).isSome = true →
      (next.groups.lookup groupId).isSome = true := by
    intro groupId hgroup
    rw [hlogged.groups]
    exact hgroup
  constructor
  · intro group hgroup
    rw [hlogged.groups] at hgroup
    have hfollows := hprojected.groups group hgroup
    by_cases htarget : group.groupId = request.groupId
    · apply followsLog_logged hfollows hlogged htarget
      rw [replayRow_logRow hlogged.role, htarget]
      funext deviceId
      by_cases hdevice : deviceId = request.targetDeviceId
      · rw [hdevice, hstanding]
        simp [stored, hmembers]
      · simp [stored, hmembers, hdevice, Change.apply, Change.ofRequest]
    · have hlog := logOf_logged hlogged group.groupId
      rw [if_neg htarget, List.append_nil] at hlog
      apply followsLog_congr hfollows _ hlog
      funext deviceId
      simp [stored, hmembers, htarget]
  · intro row hrow
    rw [hlogged.operations, List.mem_append, List.mem_singleton] at hrow
    rcases hrow with hold | rfl
    · exact (hprojected.log row hold).mono hdevices hgroups
    · obtain ⟨device, hdevice, hsigned⟩ := hlogged.signature
      exact
        { payload := ⟨_, Change.parse_payload hlogged.role, rfl, rfl, rfl⟩
          applied := rfl
          group := hgroups _ hlogged.group
          signature := ⟨device, hdevices _ _ hdevice, hsigned⟩ }
  · intro key found hfound
    rw [hmembers] at hfound
    split at hfound
    · cases hfound
      exact hsound.mono hdevices hgroups
    · exact (hprojected.members key found hfound).mono hdevices hgroups
  · exact next.membershipOperations.nodup

theorem projected_effect {caller : Option Id16} (hprojected : Projected crypto db)
    (heffect : Effect crypto now caller db next) : Projected crypto next := by
  cases heffect with
  | quiet hquiet =>
      exact projected_congr hprojected hquiet.devices hquiet.groups hquiet.members
        hquiet.operations
  | created groupId creator device hdevice hgroup hmember =>
      exact projected_created hprojected hdevice hgroup hmember
  | removed request hremove hlogged member htarget hmembers =>
      have hknown := hprojected.members _ _ htarget
      have hsound : SoundMember db { member with removedAt := some now } :=
        ⟨hknown.group, hknown.account⟩
      apply projected_logged hprojected hlogged hsound hmembers
      simp [Change.apply, Change.ofRequest, hremove, stored, htarget,
        Standing.ofMember]
  | admitted request hadmitted hlogged device hdevice hmembers =>
      apply projected_logged hprojected hlogged ⟨hlogged.group, device, hdevice, rfl⟩
        hmembers
      simp [Change.apply, Change.ofRequest, hadmitted, Standing.ofMember]
  | posted event hcaller hposted =>
      apply projected_congr hprojected _ hposted.groups hposted.members
        hposted.operations
      intro deviceId device hdevice
      rw [hposted.devices]
      exact hdevice

end Steps

/-- After any requests, the stored members of every group are the replay of its
log from its creator, every log row is authorised by the replayed state before
it and signed by its author, and correlation ids are unique. -/
theorem members_follow_log (crypto : Crypto) (requests : List Request) :
    Projected crypto (run (serve crypto) Database.migrated requests) := by
  apply run_invariant
  · intro db request hprojected
    obtain ⟨caller, -, heffect⟩ := serve_effect crypto db request
    exact projected_effect hprojected heffect
  · constructor
    · intro group hgroup
      cases hgroup
    · intro row hrow
      cases hrow
    · intro key member hmember
      cases hmember
    · exact List.nodup_nil

end ResilientMessenger.MembershipLog
