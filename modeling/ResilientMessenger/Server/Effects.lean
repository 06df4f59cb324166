import ResilientMessenger.Server.Calls

/-!
# What a call does to the groups

Of the calls a request can make, four touch groups, their members, the log of
membership operations or the events.  `perform_effect` says for every call which
rows it appends and what it checked before; everything about the group tables
is derived from it.
-/

namespace ResilientMessenger.Effects

open ResilientMessenger.ByteCodec
open ResilientMessenger.Identity
open ResilientMessenger.Schema
open ResilientMessenger.Backend
open ResilientMessenger.Transaction
open ResilientMessenger.Calls

/-! ## Calls that leave the groups alone -/

/-- The group tables are as before and no device is lost or changed. -/
structure Quiet (db next : Database) : Prop where
  devices : ∀ deviceId row, db.devices.lookup deviceId = some row →
    next.devices.lookup deviceId = some row
  groups : next.groups = db.groups
  members : next.groupMembers = db.groupMembers
  operations : next.membershipOperations = db.membershipOperations
  events : next.groupEvents = db.groupEvents

theorem quiet_refl (db : Database) : Quiet db db :=
  ⟨fun _ _ hlookup => hlookup, rfl, rfl, rfl, rfl⟩

section Quiet

variable {crypto : Crypto} {moment : Moment} {db : Database}

theorem insertAccountOrIgnore_eq_ok {row : AccountRow} {next : Database}
    (hinsert : db.insertAccountOrIgnore row = .ok next) :
    ∃ accounts, next = { db with accounts } := by
  unfold Database.insertAccountOrIgnore at hinsert
  split at hinsert
  · exact ⟨db.accounts, (pure_eq_ok.mp hinsert).symm⟩
  · obtain ⟨accounts, -, hnext⟩ := bind_eq_ok.mp hinsert
    exact ⟨accounts, (pure_eq_ok.mp hnext).symm⟩

theorem insertDevice_eq_ok {row : DeviceRow} {next : Database}
    (hinsert : db.insertDevice row = .ok next) :
    ∃ devices, next = { db with devices } ∧
      db.devices.insert? row = some devices := by
  obtain ⟨devices, hdevices, hnext⟩ := bind_eq_ok.mp hinsert
  exact ⟨devices, (pure_eq_ok.mp hnext).symm,
    (Database.insertInto_eq_ok.mp hdevices).2⟩

theorem registerAccountDevice_cases (accountId rootPublicKey : Id32)
    (cert : DeviceCertificate) :
    (registerAccountDevice crypto accountId rootPublicKey cert db).2 = db ∨
      ∃ known devices deviceCertificates,
        db.insertAccountOrIgnore ⟨accountId, rootPublicKey, none, none⟩ = .ok known ∧
        known.devices.insert? ⟨cert.deviceId, accountId, cert.devicePublicKey, none⟩ =
          some devices ∧
        (registerAccountDevice crypto accountId rootPublicKey cert db).2 =
          { known with devices, deviceCertificates } := by
  unfold registerAccountDevice
  split
  · exact .inl rfl
  rcases transaction_cases db _ with ⟨failure, hfailure⟩ |
    ⟨value, committed, hbody, hcommit⟩
  · rw [hfailure]
    exact .inl rfl
  rw [hcommit]
  split at hbody
  · cases hbody
  obtain ⟨known, hknown, hbody⟩ := bind_eq_ok.mp hbody
  split at hbody
  · cases hbody
  obtain ⟨added, hadded, hbody⟩ := bind_eq_ok.mp hbody
  obtain ⟨certified, hcertified, hbody⟩ := bind_eq_ok.mp hbody
  obtain ⟨certificates, -, hcertificates⟩ := bind_eq_ok.mp hcertified
  obtain ⟨devices, rfl, hdevices⟩ := insertDevice_eq_ok hadded
  cases pure_eq_ok.mp hcertificates
  cases pure_eq_ok.mp hbody
  exact .inr ⟨known, devices, certificates, hknown, hdevices, rfl⟩

theorem quiet_registerAccountDevice (accountId rootPublicKey : Id32)
    (cert : DeviceCertificate) :
    Quiet db (registerAccountDevice crypto accountId rootPublicKey cert db).2 := by
  rcases registerAccountDevice_cases accountId rootPublicKey cert with hsame |
    ⟨known, devices, deviceCertificates, hknown, hdevices, hnext⟩
  · rw [hsame]
    exact quiet_refl db
  rw [hnext]
  obtain ⟨accounts, rfl⟩ := insertAccountOrIgnore_eq_ok hknown
  refine ⟨?_, rfl, rfl, rfl, rfl⟩
  intro deviceId row hlookup
  rw [Table.lookup_insert? hdevices]
  have hfree := (Table.insert?_eq_some_iff.mp hdevices).1
  have hother : deviceId ≠ cert.deviceId := by
    rintro rfl
    rw [hlookup] at hfree
    cases hfree
  rw [if_neg hother]
  exact hlookup

/-- Tokens are issued by storing a row for each of them. -/
theorem issueTokens_eq_ok {deviceId : Id16} {family : Option Id16}
    {tokens : SessionTokens} {next : Database} :
    issueTokens crypto moment deviceId family db = .ok (tokens, next) ↔
      db.hasDevice deviceId = true ∧ ∃ accessSessions refreshSessions,
        db.accessSessions.insert?
          ⟨tokenHash crypto "access" moment.firstRandom, deviceId,
            moment.now + seconds accessTtlSeconds⟩ = some accessSessions ∧
        db.refreshSessions.insert?
          ⟨tokenHash crypto "refresh" moment.secondRandom,
            family.getD moment.randomId, deviceId, none,
            moment.now + seconds refreshTtlSeconds, none, none⟩ = some refreshSessions ∧
        tokens = ⟨moment.firstRandom, moment.secondRandom⟩ ∧
        next = { db with accessSessions, refreshSessions } := by
  simp only [issueTokens, Database.insertAccess, Database.insertRefresh,
    bind_eq_ok, pure_eq_ok, Prod.mk.injEq, Database.insertInto_eq_ok]
  constructor
  · rintro ⟨_, ⟨accessSessions, ⟨hdevice, haccess⟩, rfl⟩, _,
      ⟨refreshSessions, ⟨-, hrefresh⟩, rfl⟩, rfl, rfl⟩
    exact ⟨hdevice, accessSessions, refreshSessions, haccess, hrefresh, rfl, rfl⟩
  · rintro ⟨hdevice, accessSessions, refreshSessions, haccess, hrefresh, rfl, rfl⟩
    exact ⟨_, ⟨accessSessions, ⟨hdevice, haccess⟩, rfl⟩, _,
      ⟨refreshSessions, ⟨hdevice, hrefresh⟩, rfl⟩, rfl, rfl⟩

/-- Tokens that are not stored yet can be issued to every known device. -/
theorem issueTokens_of_new {deviceId : Id16} (family : Option Id16)
    (hdevice : db.hasDevice deviceId = true)
    (haccess : db.accessSessions.lookup
      (tokenHash crypto "access" moment.firstRandom) = none)
    (hrefresh : db.refreshSessions.lookup
      (tokenHash crypto "refresh" moment.secondRandom) = none) :
    ∃ issued, issueTokens crypto moment deviceId family db = .ok issued := by
  obtain ⟨accessSessions, haccess⟩ : ∃ accessSessions, db.accessSessions.insert?
      ⟨tokenHash crypto "access" moment.firstRandom, deviceId,
        moment.now + seconds accessTtlSeconds⟩ = some accessSessions :=
    Table.exists_insert? haccess
  obtain ⟨refreshSessions, hrefresh⟩ : ∃ refreshSessions, db.refreshSessions.insert?
      ⟨tokenHash crypto "refresh" moment.secondRandom, family.getD moment.randomId,
        deviceId, none, moment.now + seconds refreshTtlSeconds, none, none⟩ =
          some refreshSessions :=
    Table.exists_insert? hrefresh
  exact ⟨_, issueTokens_eq_ok.mpr
    ⟨hdevice, accessSessions, refreshSessions, haccess, hrefresh, rfl, rfl⟩⟩

/-- The tables a session call can change. -/
theorem beginChallenge_extent (deviceId : Id16) :
    ∃ authChallenges, (beginChallenge moment deviceId db).2 =
      { db with authChallenges } := by
  unfold beginChallenge
  split
  · exact ⟨db.authChallenges, rfl⟩
  apply transaction_keeps (P := fun next : Database => ∃ authChallenges,
    next = { db with authChallenges }) ⟨db.authChallenges, rfl⟩
  intro value next hbody
  simp only [Database.insertChallenge, bind_eq_ok, pure_eq_ok, Prod.mk.injEq]
    at hbody
  obtain ⟨stored, ⟨challenges, -, rfl⟩, -, rfl⟩ := hbody
  exact ⟨challenges, rfl⟩

theorem completeChallenge_extent (challengeId : Id16) (signature : FixedBytes 64) :
    ∃ authChallenges accessSessions refreshSessions,
      (completeChallenge crypto moment challengeId signature db).2 =
        { db with authChallenges, accessSessions, refreshSessions } := by
  apply transaction_keeps
    (P := fun next : Database => ∃ authChallenges accessSessions refreshSessions,
      next = { db with authChallenges, accessSessions, refreshSessions })
    ⟨db.authChallenges, db.accessSessions, db.refreshSessions, rfl⟩
  intro value next hbody
  split at hbody
  · cases hbody
  split at hbody
  · cases hbody
  split_ifs at hbody
  obtain ⟨-, accessSessions, refreshSessions, -, -, -, rfl⟩ := issueTokens_eq_ok.mp hbody
  exact ⟨_, accessSessions, refreshSessions, rfl⟩

theorem rotateRefresh_extent (deviceId : Id16) (refreshToken : Id32)
    (signature : FixedBytes 64) :
    ∃ accessSessions refreshSessions,
      (rotateRefresh crypto moment deviceId refreshToken signature db).2 =
        { db with accessSessions, refreshSessions } := by
  unfold rotateRefresh
  dsimp only
  split
  · split_ifs
    · exact ⟨db.accessSessions, _, rfl⟩
    · exact ⟨db.accessSessions, db.refreshSessions, rfl⟩
    · exact ⟨db.accessSessions, db.refreshSessions, rfl⟩
    · apply transaction_keeps (P := fun next : Database => ∃ accessSessions refreshSessions,
        next = { db with accessSessions, refreshSessions })
        ⟨db.accessSessions, db.refreshSessions, rfl⟩
      intro value next hbody
      simp only [bind_eq_ok, pure_eq_ok, Prod.exists, Prod.mk.injEq] at hbody
      obtain ⟨tokens, issued, hissue, -, rfl⟩ := hbody
      obtain ⟨-, accessSessions, refreshSessions, -, -, -, rfl⟩ :=
        issueTokens_eq_ok.mp hissue
      exact ⟨accessSessions, _, rfl⟩
  · exact ⟨db.accessSessions, db.refreshSessions, rfl⟩

theorem quiet_beginChallenge (deviceId : Id16) :
    Quiet db (beginChallenge moment deviceId db).2 := by
  obtain ⟨authChallenges, hextent⟩ := beginChallenge_extent deviceId
  rw [hextent]
  exact ⟨fun _ _ hlookup => hlookup, rfl, rfl, rfl, rfl⟩

theorem quiet_completeChallenge (challengeId : Id16) (signature : FixedBytes 64) :
    Quiet db (completeChallenge crypto moment challengeId signature db).2 := by
  obtain ⟨authChallenges, accessSessions, refreshSessions, hextent⟩ :=
    completeChallenge_extent challengeId signature
  rw [hextent]
  exact ⟨fun _ _ hlookup => hlookup, rfl, rfl, rfl, rfl⟩

theorem quiet_rotateRefresh (deviceId : Id16) (refreshToken : Id32)
    (signature : FixedBytes 64) :
    Quiet db
      (rotateRefresh crypto moment deviceId refreshToken signature db).2 := by
  obtain ⟨accessSessions, refreshSessions, hextent⟩ :=
    rotateRefresh_extent deviceId refreshToken signature
  rw [hextent]
  exact ⟨fun _ _ hlookup => hlookup, rfl, rfl, rfl, rfl⟩

theorem quiet_publishKeyPackage (deviceId packageId : Id16) (package : Bytes) :
    Quiet db (publishKeyPackage moment.now deviceId packageId package db).2 := by
  unfold publishKeyPackage
  split
  · exact quiet_refl db
  split
  · exact quiet_refl db
  split
  · exact ⟨fun _ _ hlookup => hlookup, rfl, rfl, rfl, rfl⟩
  · exact quiet_refl db

theorem uploadWelcome_extent (now : Time) (author target group welcomeId : Id16)
    (welcome : Bytes) :
    ∃ welcomeMailbox,
      (uploadWelcome now author target group welcomeId welcome db).2 =
        { db with welcomeMailbox } := by
  unfold uploadWelcome
  split
  · exact ⟨db.welcomeMailbox, rfl⟩
  apply transaction_keeps (P := fun next : Database => ∃ welcomeMailbox,
    next = { db with welcomeMailbox }) ⟨db.welcomeMailbox, rfl⟩
  intro value next hbody
  obtain ⟨_, -, hbody⟩ := bind_eq_ok.mp hbody
  split at hbody
  · cases hbody
  simp only [bind_eq_ok, pure_eq_ok, Prod.mk.injEq] at hbody
  obtain ⟨stored, hinsert, -, rfl⟩ := hbody
  obtain ⟨welcomeMailbox, rfl, -⟩ := Redelivery.insertWelcomeOrIgnore_eq_ok hinsert
  exact ⟨welcomeMailbox, rfl⟩

theorem quiet_uploadWelcome (author target group welcomeId : Id16)
    (welcome : Bytes) :
    Quiet db
      (uploadWelcome moment.now author target group welcomeId welcome db).2 := by
  obtain ⟨welcomeMailbox, hextent⟩ :=
    uploadWelcome_extent moment.now author target group welcomeId welcome
  rw [hextent]
  exact ⟨fun _ _ hlookup => hlookup, rfl, rfl, rfl, rfl⟩

theorem quiet_storeRecoveryPackage (accountId recoveryIdentifier : Id32)
    (blob : Bytes) :
    Quiet db (storeRecoveryPackage accountId recoveryIdentifier blob db).2 := by
  unfold storeRecoveryPackage
  split_ifs <;> exact ⟨fun _ _ hlookup => hlookup, rfl, rfl, rfl, rfl⟩

theorem quiet_fetchKeyPackage (target : Id16) :
    Quiet db (fetchKeyPackage moment.now target db).2 := by
  unfold fetchKeyPackage
  dsimp only
  split <;> exact ⟨fun _ _ hlookup => hlookup, rfl, rfl, rfl, rfl⟩

theorem quiet_fetchWelcomes (target : Id16) (limit : ℤ) :
    Quiet db (fetchWelcomes moment.now target limit db).2 :=
  ⟨fun _ _ hlookup => hlookup, rfl, rfl, rfl, rfl⟩

theorem recordReceipt_eq (deviceId : Id16) (receiptType : ℤ)
    (progress : ℕ × Database) (eventId : Id16) :
    ∃ inserted messageReceipts,
      recordReceipt deviceId receiptType progress eventId =
        (inserted, { progress.2 with messageReceipts }) := by
  obtain ⟨inserted, db⟩ := progress
  unfold recordReceipt
  dsimp only
  split
  · exact ⟨inserted, db.messageReceipts, rfl⟩
  · split
    · split
      · exact ⟨_, _, rfl⟩
      · exact ⟨inserted, db.messageReceipts, rfl⟩
    · exact ⟨inserted, db.messageReceipts, rfl⟩

theorem recordReceipts_eq (deviceId : Id16) (receiptType : ℤ)
    (eventIds : List Id16) (progress : ℕ × Database) :
    ∃ messageReceipts,
      (eventIds.foldl (recordReceipt deviceId receiptType) progress).2 =
        { progress.2 with messageReceipts } := by
  induction eventIds generalizing progress with
  | nil => exact ⟨progress.2.messageReceipts, rfl⟩
  | cons eventId eventIds ih =>
      obtain ⟨inserted, receipts, hfirst⟩ :=
        recordReceipt_eq deviceId receiptType progress eventId
      obtain ⟨messageReceipts, hrest⟩ := ih (inserted, { progress.2 with
        messageReceipts := receipts })
      refine ⟨messageReceipts, ?_⟩
      rw [List.foldl_cons, hfirst, hrest]

theorem recordReceipts_extent (deviceId : Id16) (eventIds : List Id16)
    (receiptType : ℤ) :
    ∃ messageReceipts, (recordReceipts deviceId eventIds receiptType db).2 =
      { db with messageReceipts } := by
  unfold recordReceipts
  split
  · exact ⟨db.messageReceipts, rfl⟩
  · exact recordReceipts_eq deviceId receiptType eventIds (0, db)

theorem quiet_recordReceipts (deviceId : Id16) (eventIds : List Id16)
    (receiptType : ℤ) :
    Quiet db (recordReceipts deviceId eventIds receiptType db).2 := by
  obtain ⟨messageReceipts, hextent⟩ :=
    recordReceipts_extent deviceId eventIds receiptType
  rw [hextent]
  exact ⟨fun _ _ hlookup => hlookup, rfl, rfl, rfl, rfl⟩

end Quiet

/-! ## Calls that change a group -/

/-- The request's own payload. -/
def payload (request : MembershipOperation) : Bytes :=
  membershipOperationPayload request.correlationId request.groupId
    request.authorDeviceId request.targetDeviceId request.role request.remove

/-- The log row of an applied request. -/
def logRow (now : Time) (request : MembershipOperation) : MembershipRow where
  correlationId := request.correlationId
  groupId := request.groupId
  authorDeviceId := request.authorDeviceId
  operation := payload request
  signature := request.signature
  appliedAt := some now

/-- The request comes from an active administrator, is signed with the
administrator's device key and is appended to the log under a new id. -/
structure Logged (crypto : Crypto) (now : Time) (request : MembershipOperation)
    (db next : Database) : Prop where
  role : 0 ≤ request.role ∧ request.role ≤ 2
  author : ∃ member,
    db.groupMembers.lookup (request.groupId, request.authorDeviceId) = some member ∧
      member.role = 2 ∧ member.removedAt = none
  signature : ∃ device, db.devices.lookup request.authorDeviceId = some device ∧
    crypto.verifies device.devicePublicKey (payload request) request.signature = true
  group : (db.groups.lookup request.groupId).isSome = true
  operations : next.membershipOperations.rows =
    db.membershipOperations.rows ++ [logRow now request]
  devices : next.devices = db.devices
  groups : next.groups = db.groups
  events : next.groupEvents = db.groupEvents

/-- The upload was made by an active member; a Commit refers to an applied
operation of its group. -/
structure Posted (now : Time) (event : UploadedEvent) (db next : Database) :
    Prop where
  active : activeIn db event.authorDeviceId event.groupId = true
  commit : event.eventKind = eventKindMlsCommit → event.correlationId ≠ none
  correlated : ∀ correlationId ∈ event.correlationId,
    appliedOperation db correlationId event.groupId = true
  unique : ∀ other ∈ db.groupEvents.rows,
    other.eventCursor ≠ db.eventSequence + 1 ∧
      (other.authorDeviceId ≠ event.authorDeviceId ∨
        other.clientMessageId ≠ event.clientMessageId)
  appended : next.groupEvents.rows =
    db.groupEvents.rows ++ [event.row now (db.eventSequence + 1)]
  devices : next.devices = db.devices
  groups : next.groups = db.groups
  members : next.groupMembers = db.groupMembers
  operations : next.membershipOperations = db.membershipOperations

/-- What a call made for `caller` can do to devices, groups, members, operations
and events. -/
inductive Effect (crypto : Crypto) (now : Time) (caller : Option Id16)
    (db : Database) : Database → Prop where
  | quiet {next : Database} (hquiet : Quiet db next) :
      Effect crypto now caller db next
  | created {groups : Table GroupRow.groupId} {groupMembers : Table MemberRow.key}
      (groupId creator : Id16) (device : DeviceRow)
      (hdevice : db.devices.lookup creator = some device)
      (hgroup : db.groups.insert? ⟨groupId, creator⟩ = some groups)
      (hmember : db.groupMembers.insert?
        ⟨groupId, creator, device.accountId, 2, none⟩ = some groupMembers) :
      Effect crypto now caller db { db with groups, groupMembers }
  | removed {next : Database} (request : MembershipOperation)
      (hremove : request.remove = true)
      (hlogged : Logged crypto now request db next) (member : MemberRow)
      (htarget : db.groupMembers.lookup
        (request.groupId, request.targetDeviceId) = some member)
      (hmembers : ∀ key, next.groupMembers.lookup key =
        if key = (request.groupId, request.targetDeviceId) then
          some { member with removedAt := some now }
        else db.groupMembers.lookup key) : Effect crypto now caller db next
  | admitted {next : Database} (request : MembershipOperation)
      (hadmitted : request.remove = false)
      (hlogged : Logged crypto now request db next) (device : DeviceRow)
      (hdevice : db.devices.lookup request.targetDeviceId = some device)
      (hmembers : ∀ key, next.groupMembers.lookup key =
        if key = (request.groupId, request.targetDeviceId) then
          some ⟨request.groupId, request.targetDeviceId, device.accountId,
            request.role, none⟩
        else db.groupMembers.lookup key) : Effect crypto now caller db next
  | posted {next : Database} (event : UploadedEvent)
      (hcaller : caller = some event.authorDeviceId)
      (hposted : Posted now event db next) : Effect crypto now caller db next

variable {crypto : Crypto} {now : Time} {caller : Option Id16} {db : Database}

theorem activeDevice_eq_some {deviceId : Id16} {device : DeviceRow}
    (hactive : activeDevice db deviceId = some device) :
    db.devices.lookup deviceId = some device :=
  (Option.filter_eq_some_iff.mp hactive).1

theorem createGroup_extent (groupId creator : Id16) (accountId : Id32) :
    ∃ groups groupMembers, (createGroup groupId creator accountId db).2 =
      { db with groups, groupMembers } := by
  apply transaction_keeps (P := fun next : Database => ∃ groups groupMembers,
    next = { db with groups, groupMembers }) ⟨db.groups, db.groupMembers, rfl⟩
  intro value next hbody
  obtain ⟨-, groups, groupMembers, rfl, -⟩ :=
    Redelivery.createGroup_eq_ok (transaction_of_ok hbody)
  exact ⟨groups, groupMembers, rfl⟩

theorem effect_createGroup (groupId creator : Id16) (accountId : Id32) :
    Effect crypto now caller db (createGroup groupId creator accountId db).2 := by
  unfold createGroup
  rcases transaction_cases db _ with ⟨failure, hfailure⟩ |
    ⟨value, committed, hbody, hcommit⟩
  · rw [hfailure]
    exact .quiet (quiet_refl db)
  rw [hcommit]
  split at hbody
  · cases hbody
  case isFalse howner =>
    simp only [Database.insertMember, Database.insertGroup, bind_eq_ok, pure_eq_ok,
      Database.insertInto_eq_ok, Prod.mk.injEq] at hbody
    obtain ⟨_, ⟨groups, ⟨-, hgroup⟩, rfl⟩, _, ⟨groupMembers, ⟨-, hmember⟩, rfl⟩, -,
      rfl⟩ := hbody
    cases hdevice : activeDevice db creator with
    | none => simp [hdevice] at howner
    | some device =>
        have haccount : device.accountId = accountId := by
          simpa [hdevice] using howner
        subst haccount
        exact .created groupId creator device (activeDevice_eq_some hdevice) hgroup
          hmember

/-! ## Membership operations -/

theorem removeMember_eq_ok {groupId deviceId : Id16} {next : Database}
    (hremove : removeMember now groupId deviceId db = .ok next) :
    ∃ groupMembers member, next = { db with groupMembers } ∧
      db.groupMembers.lookup (groupId, deviceId) = some member ∧
      ∀ key, groupMembers.lookup key =
        if key = (groupId, deviceId) then
          some { member with removedAt := some now }
        else db.groupMembers.lookup key := by
  unfold removeMember at hremove
  dsimp only at hremove
  split at hremove
  case isFalse => cases hremove
  case isTrue haffects =>
    cases hremove
    cases hlookup : db.groupMembers.lookup (groupId, deviceId) with
    | none => simp [Table.affects, hlookup] at haffects
    | some member =>
        have hactive : member.removedAt = none := by
          simpa [Table.affects, hlookup] using haffects
        refine ⟨_, member, rfl, rfl, fun key => ?_⟩
        apply (Table.lookup_modify _ _ _ _ _ key).trans
        by_cases hkey : key = (groupId, deviceId)
        · subst hkey
          simp [hlookup, hactive]
        · simp [hkey]

theorem admitMember_eq_ok {groupId deviceId : Id16} {role : ℤ} {next : Database}
    (hadmitted : admitMember groupId deviceId role db = .ok next) :
    ∃ groupMembers device, next = { db with groupMembers } ∧
      db.devices.lookup deviceId = some device ∧
      ∀ key, groupMembers.lookup key =
        if key = (groupId, deviceId) then
          some ⟨groupId, deviceId, device.accountId, role, none⟩
        else db.groupMembers.lookup key := by
  unfold admitMember at hadmitted
  split at hadmitted
  case h_1 => cases hadmitted
  case h_2 device hdevice =>
    unfold Database.upsertMember at hadmitted
    split at hadmitted
    case isFalse => cases hadmitted
    case isTrue =>
      cases hadmitted
      refine ⟨_, device, rfl, activeDevice_eq_some hdevice, fun key => ?_⟩
      apply (Table.lookup_upsert _ _ _ _ key).trans
      by_cases hkey : key = (groupId, deviceId)
      · subst hkey
        cases hlookup : db.groupMembers.lookup (groupId, deviceId) with
        | none => simp [MemberRow.key]
        | some member =>
            have hmember := Table.key_of_lookup hlookup
            simp only [MemberRow.key, Prod.mk.injEq] at hmember
            simp [MemberRow.key, hmember]
      · simp [MemberRow.key, hkey]

theorem insertMembershipOperation_eq_ok {row : MembershipRow} {next : Database}
    (hinsert : db.insertMembershipOperation row = .ok next) :
    ∃ membershipOperations, next = { db with membershipOperations } ∧
      db.membershipOperations.insert? row = some membershipOperations ∧
      (db.groups.lookup row.groupId).isSome = true := by
  obtain ⟨operations, hoperations, hnext⟩ := bind_eq_ok.mp hinsert
  obtain ⟨hallowed, hrow⟩ := Database.insertInto_eq_ok.mp hoperations
  exact ⟨operations, (pure_eq_ok.mp hnext).symm, hrow,
    (Bool.and_eq_true_iff.mp hallowed).1⟩

/-- What an applied request does to the members of its group. -/
def Reassigns (now : Time) (request : MembershipOperation) (db next : Database) :
    Prop :=
  (request.remove = true ∧ ∃ member,
    db.groupMembers.lookup (request.groupId, request.targetDeviceId) = some member ∧
      ∀ key, next.groupMembers.lookup key =
        if key = (request.groupId, request.targetDeviceId) then
          some { member with removedAt := some now }
        else db.groupMembers.lookup key) ∨
    request.remove = false ∧ ∃ device,
      db.devices.lookup request.targetDeviceId = some device ∧
        ∀ key, next.groupMembers.lookup key =
          if key = (request.groupId, request.targetDeviceId) then
            some ⟨request.groupId, request.targetDeviceId, device.accountId,
              request.role, none⟩
          else db.groupMembers.lookup key

/-- A membership operation leaves the database alone or is logged and applied. -/
theorem applyMembershipOperation_cases (crypto : Crypto) (now : Time)
    (request : MembershipOperation) (db : Database) :
    (∃ result, result ≠ .ok false ∧
      applyMembershipOperation crypto now request db = (result, db)) ∨
      ∃ groupMembers membershipOperations,
        applyMembershipOperation crypto now request db =
          (.ok false, { db with groupMembers, membershipOperations }) ∧
        Logged crypto now request db { db with groupMembers, membershipOperations } ∧
        Reassigns now request db { db with groupMembers, membershipOperations } := by
  unfold applyMembershipOperation
  split
  · exact .inl ⟨_, by simp, rfl⟩
  case isFalse hrole =>
    rcases transaction_cases db _ with ⟨failure, hfailure⟩ |
      ⟨value, committed, hbody, hcommit⟩
    · exact .inl ⟨_, by simp, hfailure⟩
    rw [hcommit]
    dsimp only at hbody
    split at hbody
    case h_2 => cases hbody
    case h_1 member device hmember hdevice =>
      split at hbody
      · cases hbody
      case isFalse hverifies =>
        split at hbody
        · split at hbody
          · cases hbody
            exact .inl ⟨_, by simp, rfl⟩
          · cases hbody
        obtain ⟨logged, hinsert, hbody⟩ := bind_eq_ok.mp hbody
        obtain ⟨operations, rfl, hrow, hgroup⟩ :=
          insertMembershipOperation_eq_ok hinsert
        obtain ⟨hfound, hadmin⟩ := Option.filter_eq_some_iff.mp hmember
        have hadmin' : member.role = 2 ∧ member.removedAt = none := by
          simpa using hadmin
        have happlied := Table.rows_modify_insert?
          (f := fun row : MembershipRow => { row with appliedAt := some now })
          (fun _ => rfl) hrow
        have hlogged : ∀ groupMembers, Logged crypto now request db
            { db with
              groupMembers
              membershipOperations := operations.modify request.correlationId
                (fun _ => true) (fun row => { row with appliedAt := some now })
                fun _ => rfl } := fun groupMembers =>
          { role := by omega
            author := ⟨member, hfound, hadmin'⟩
            signature := ⟨device, hdevice, by simpa [payload] using hverifies⟩
            group := hgroup
            operations := happlied
            devices := rfl
            groups := rfl
            events := rfl }
        by_cases hremove : request.remove = true
        · rw [if_pos hremove] at hbody
          obtain ⟨changed, hchange, hbody⟩ := bind_eq_ok.mp hbody
          obtain ⟨groupMembers, target, rfl, htarget, hmembers⟩ :=
            removeMember_eq_ok hchange
          cases hbody
          exact .inr ⟨_, _, rfl, hlogged groupMembers,
            .inl ⟨hremove, target, htarget, hmembers⟩⟩
        · rw [if_neg hremove] at hbody
          obtain ⟨changed, hchange, hbody⟩ := bind_eq_ok.mp hbody
          obtain ⟨groupMembers, target, rfl, htarget, hmembers⟩ :=
            admitMember_eq_ok hchange
          cases hbody
          exact .inr ⟨_, _, rfl, hlogged groupMembers,
            .inr ⟨by simpa using hremove, target, htarget, hmembers⟩⟩

theorem applyMembershipOperation_extent (crypto : Crypto) (now : Time)
    (request : MembershipOperation) :
    ∃ groupMembers membershipOperations,
      (applyMembershipOperation crypto now request db).2 =
        { db with groupMembers, membershipOperations } := by
  rcases applyMembershipOperation_cases crypto now request db with
    ⟨result, -, houtcome⟩ | ⟨groupMembers, membershipOperations, houtcome, -⟩
  · rw [houtcome]
    exact ⟨db.groupMembers, db.membershipOperations, rfl⟩
  · rw [houtcome]
    exact ⟨groupMembers, membershipOperations, rfl⟩

theorem effect_applyMembershipOperation (request : MembershipOperation) :
    Effect crypto now caller db
      (applyMembershipOperation crypto now request db).2 := by
  rcases applyMembershipOperation_cases crypto now request db with
    ⟨result, -, houtcome⟩ | ⟨_, _, houtcome, hlogged, hmembers⟩
  · rw [houtcome]
    exact .quiet (quiet_refl db)
  rw [houtcome]
  rcases hmembers with ⟨hremove, member, htarget, hmembers⟩ |
    ⟨hadmitted, device, hdevice, hmembers⟩
  · exact .removed request hremove hlogged member htarget hmembers
  · exact .admitted request hadmitted hlogged device hdevice hmembers

/-! ## Uploads -/

theorem assertActiveMember_eq_ok {groupId deviceId : Id16} {value : Unit}
    (hassert : assertActiveMember groupId deviceId db = .ok value) :
    activeIn db deviceId groupId = true := by
  unfold assertActiveMember at hassert
  split at hassert
  case isTrue hactive => exact hactive
  case isFalse => cases hassert

theorem admitUpload_eq_ok {event : UploadedEvent} {value : Unit}
    (hadmitted : admitUpload event db = .ok value) :
    activeIn db event.authorDeviceId event.groupId = true ∧
      (event.eventKind = eventKindMlsCommit → event.correlationId ≠ none) ∧
      ∀ correlationId ∈ event.correlationId,
        appliedOperation db correlationId event.groupId = true := by
  obtain ⟨_, hactive, hadmitted⟩ := bind_eq_ok.mp hadmitted
  refine ⟨assertActiveMember_eq_ok hactive, ?_⟩
  by_cases hcommit : event.eventKind = eventKindMlsCommit ∧
      event.correlationId.isNone = true
  · rw [if_pos hcommit] at hadmitted
    cases hadmitted
  rw [if_neg hcommit] at hadmitted
  by_cases hmissing : event.correlationId.any (fun correlationId =>
      !appliedOperation db correlationId event.groupId) = true
  · rw [if_pos hmissing] at hadmitted
    cases hadmitted
  constructor
  · intro hkind hnone
    exact hcommit ⟨hkind, by simp [hnone]⟩
  · intro correlationId hid
    rw [Option.mem_def.mp hid] at hmissing
    simpa using hmissing

theorem insertEvent_unique {row : EventRow} {next : Database}
    (hinsert : db.insertEvent row = .ok next) :
    ∀ other ∈ db.groupEvents.rows, other.eventCursor ≠ row.eventCursor ∧
      (other.authorDeviceId ≠ row.authorDeviceId ∨
        other.clientMessageId ≠ row.clientMessageId) := by
  obtain ⟨events, hevents, -⟩ := bind_eq_ok.mp hinsert
  have hallowed := (Database.insertInto_eq_ok.mp hevents).1
  intro other hother
  exact of_decide_eq_true
    (List.all_eq_true.mp (Bool.and_eq_true_iff.mp hallowed).2 other hother)

theorem uploadEvent_extent (now : Time) (event : UploadedEvent) :
    ∃ groupEvents eventSequence, (uploadEvent now event db).2 =
      { db with groupEvents, eventSequence } := by
  rcases Redelivery.uploadEvent_outcomes now event db with ⟨failure, houtcome⟩ |
    ⟨-, ⟨cursor, -, houtcome⟩ | ⟨-, ⟨failure, -, houtcome⟩ |
      ⟨inserted, hinsert, houtcome⟩⟩⟩
  · rw [houtcome]
    exact ⟨db.groupEvents, db.eventSequence, rfl⟩
  · rw [houtcome]
    exact ⟨db.groupEvents, db.eventSequence, rfl⟩
  · rw [houtcome]
    exact ⟨db.groupEvents, _, rfl⟩
  · rw [houtcome]
    obtain ⟨groupEvents, rfl, -, -⟩ := Database.insertEvent_eq_ok hinsert
    exact ⟨groupEvents, _, rfl⟩

theorem effect_uploadEvent (event : UploadedEvent) :
    Effect crypto now (some event.authorDeviceId) db (uploadEvent now event db).2 := by
  rcases Redelivery.uploadEvent_outcomes now event db with ⟨failure, houtcome⟩ |
    ⟨-, ⟨cursor, -, houtcome⟩ | ⟨hcheck, ⟨failure, -, houtcome⟩ |
      ⟨inserted, hinsert, houtcome⟩⟩⟩
  · rw [houtcome]
    exact .quiet (quiet_refl db)
  · rw [houtcome]
    exact .quiet (quiet_refl db)
  · rw [houtcome]
    exact .quiet ⟨fun _ _ hlookup => hlookup, rfl, rfl, rfl, rfl⟩
  · rw [houtcome]
    obtain ⟨_, hadmitted, -⟩ := bind_eq_ok.mp hcheck
    obtain ⟨hactive, hcommit, hcorrelated⟩ := admitUpload_eq_ok hadmitted
    have hunique := insertEvent_unique hinsert
    obtain ⟨groupEvents, rfl, hrows, -⟩ := Database.insertEvent_eq_ok hinsert
    exact .posted event rfl ⟨hactive, hcommit, hcorrelated, hunique, hrows, rfl, rfl,
      rfl, rfl⟩

theorem perform_effect (crypto : Crypto) (moment : Moment) (db : Database)
    (call : Call) :
    Effect crypto moment.now call.caller db (call.perform crypto moment db) := by
  cases call with
  | registerAccountDevice accountId rootPublicKey cert =>
      exact .quiet (quiet_registerAccountDevice accountId rootPublicKey cert)
  | beginChallenge deviceId => exact .quiet (quiet_beginChallenge deviceId)
  | completeChallenge challengeId signature =>
      exact .quiet (quiet_completeChallenge challengeId signature)
  | rotateRefresh deviceId refreshToken signature =>
      exact .quiet (quiet_rotateRefresh deviceId refreshToken signature)
  | uploadEvent event => exact effect_uploadEvent event
  | publishKeyPackage deviceId packageId package =>
      exact .quiet (quiet_publishKeyPackage deviceId packageId package)
  | createGroup groupId creator accountId =>
      exact effect_createGroup groupId creator accountId
  | applyMembershipOperation request => exact effect_applyMembershipOperation request
  | uploadWelcome author target group welcomeId welcome =>
      exact .quiet (quiet_uploadWelcome author target group welcomeId welcome)
  | storeRecoveryPackage accountId recoveryIdentifier blob =>
      exact .quiet (quiet_storeRecoveryPackage accountId recoveryIdentifier blob)
  | fetchKeyPackage target => exact .quiet (quiet_fetchKeyPackage target)
  | fetchWelcomes target limit => exact .quiet (quiet_fetchWelcomes target limit)
  | recordReceipts deviceId eventIds receiptType =>
      exact .quiet (quiet_recordReceipts deviceId eventIds receiptType)

/-- Everything a request does to the groups is done for the device whose token
it carries. -/
theorem serve_effect (crypto : Crypto) (db : Database) (request : Request) :
    ∃ caller, (∀ deviceId ∈ caller,
        SignedIn crypto request.moment.now request.frame.body db deviceId) ∧
      Effect crypto request.moment.now caller db (serve crypto db request) := by
  rcases dispatch_makes crypto request.moment db request.frame with hsame |
    ⟨call, -, hcaller, hcall⟩
  · refine ⟨none, by simp, ?_⟩
    rw [serve, hsame]
    exact .quiet (quiet_refl db)
  · refine ⟨call.caller, hcaller, ?_⟩
    rw [serve, hcall]
    exact perform_effect crypto request.moment db call

end ResilientMessenger.Effects
