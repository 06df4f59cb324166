import ResilientMessenger.Server.Sessions

/-!
# Accounts, devices and certificates

Four tables speak about who a device is: its own row, the row of its account, its
certificate and its rows in the groups.  They are written by different calls and
only some of the links are foreign keys.  `registrations_hold` says that they
always agree: every device has an account whose id is the hash of its root key
and a certificate that verifies under that key, every account has a device, and
a member of a group is listed under the account of its device.  None of it ever
changes.
-/

namespace ResilientMessenger.Registrations

open ResilientMessenger.ByteCodec
open ResilientMessenger.Identity
open ResilientMessenger.Schema
open ResilientMessenger.Backend
open ResilientMessenger.Transaction
open ResilientMessenger.Calls
open ResilientMessenger.Effects
open ResilientMessenger.RequestedCalls
open ResilientMessenger.Revocation (revokeDevice)
open ResilientMessenger.Sessions (Label step)
open ResilientMessenger.Runs

/-! ## What the tables say -/

/-- The certificate that the rows of a device stand for. -/
def certificateOf (device : DeviceRow) (row : CertificateRow) : DeviceCertificate where
  deviceId := device.deviceId
  devicePublicKey := device.devicePublicKey
  issuedAt := UInt64.ofNat row.issuedAt.toNat
  signature := row.certificateSignature

/-- The device has an account and a certificate of that account. -/
def Certified (crypto : Crypto) (db : Database) (device : DeviceRow) : Prop :=
  ∃ account row, db.accounts.lookup device.accountId = some account ∧
    db.deviceCertificates.lookup device.deviceId = some row ∧
    verifyDeviceCertificate crypto account.rootPublicKey (certificateOf device row) = true

/-- The member is listed under the account of its device, with a role there is. -/
def Listed (db : Database) (member : MemberRow) : Prop :=
  0 ≤ member.role ∧ member.role ≤ 2 ∧ ∃ device,
    db.devices.lookup member.deviceId = some device ∧
      member.accountId = device.accountId

structure Registered (crypto : Crypto) (db : Database) : Prop where
  devices : ∀ device ∈ db.devices.rows, Certified crypto db device
  accounts : ∀ account ∈ db.accounts.rows,
    accountIdFromRootPublic crypto account.rootPublicKey = account.accountId ∧
      ∃ device ∈ db.devices.rows, device.accountId = account.accountId
  certificates : ∀ row ∈ db.deviceCertificates.rows,
    db.hasDevice row.deviceId = true
  members : ∀ member ∈ db.groupMembers.rows, Listed db member

/-- Everything that was registered still is, in the same words. -/
structure Keeps (db next : Database) : Prop where
  devices : ∀ deviceId device, db.devices.lookup deviceId = some device →
    ∃ later, next.devices.lookup deviceId = some later ∧
      later.accountId = device.accountId ∧
      later.devicePublicKey = device.devicePublicKey
  accounts : ∀ accountId account, db.accounts.lookup accountId = some account →
    ∃ later, next.accounts.lookup accountId = some later ∧
      later.rootPublicKey = account.rootPublicKey
  certificates : ∀ deviceId row, db.deviceCertificates.lookup deviceId = some row →
    next.deviceCertificates.lookup deviceId = some row

theorem keeps_refl (db : Database) : Keeps db db where
  devices := fun _ device hdevice => ⟨device, hdevice, rfl, rfl⟩
  accounts := fun _ account haccount => ⟨account, haccount, rfl⟩
  certificates := fun _ _ hrow => hrow

theorem keeps_trans (first second third : Database) (hfirst : Keeps first second)
    (hsecond : Keeps second third) : Keeps first third where
  devices := by
    intro deviceId device hdevice
    obtain ⟨middle, hmiddle, haccount, hkey⟩ := hfirst.devices deviceId device hdevice
    obtain ⟨later, hlater, haccount', hkey'⟩ := hsecond.devices deviceId middle hmiddle
    exact ⟨later, hlater, haccount'.trans haccount, hkey'.trans hkey⟩
  accounts := by
    intro accountId account haccount
    obtain ⟨middle, hmiddle, hkey⟩ := hfirst.accounts accountId account haccount
    obtain ⟨later, hlater, hkey'⟩ := hsecond.accounts accountId middle hmiddle
    exact ⟨later, hlater, hkey'.trans hkey⟩
  certificates := fun deviceId row hrow =>
    hsecond.certificates deviceId row (hfirst.certificates deviceId row hrow)

/-! ## Registering a device -/

section Registration

variable {crypto : Crypto} {db : Database}

/-- The account row a registration ends up with: a new one or one it found. -/
def Claims (crypto : Crypto) (accountId rootPublicKey : Id32) (db : Database)
    (accounts : Table AccountRow.accountId) : Prop :=
  accountIdFromRootPublic crypto rootPublicKey = accountId ∧
    ((∃ account, db.accounts.lookup accountId = some account ∧
        account.rootPublicKey = rootPublicKey ∧ accounts = db.accounts) ∨
      db.accounts.insert? ⟨accountId, rootPublicKey, none, none⟩ = some accounts)

theorem insertAccountOrIgnore_cases {row : AccountRow} {next : Database}
    (hinsert : db.insertAccountOrIgnore row = .ok next) :
    next = db ∧ db.hasAccount row.accountId = true ∨
      ∃ accounts, next = { db with accounts } ∧ db.accounts.insert? row = some accounts := by
  unfold Database.insertAccountOrIgnore at hinsert
  split at hinsert
  case isTrue hknown => exact .inl ⟨(pure_eq_ok.mp hinsert).symm, hknown⟩
  case isFalse =>
    obtain ⟨accounts, haccounts, hnext⟩ := bind_eq_ok.mp hinsert
    exact .inr ⟨accounts, (pure_eq_ok.mp hnext).symm,
      (Database.insertInto_eq_ok.mp haccounts).2⟩

theorem registerAccountDevice_inserts (accountId rootPublicKey : Id32)
    (cert : DeviceCertificate) :
    (registerAccountDevice crypto accountId rootPublicKey cert db).2 = db ∨
      ∃ accounts devices deviceCertificates,
        (registerAccountDevice crypto accountId rootPublicKey cert db).2 =
          { db with accounts, devices, deviceCertificates } ∧
        Claims crypto accountId rootPublicKey db accounts ∧
        verifyDeviceCertificate crypto rootPublicKey cert = true ∧
        db.devices.insert? ⟨cert.deviceId, accountId, cert.devicePublicKey, none⟩ =
          some devices ∧
        0 ≤ signed 64 cert.issuedAt.toNat ∧
        db.deviceCertificates.insert?
          ⟨cert.deviceId, cert.signature, signed 64 cert.issuedAt.toNat⟩ =
            some deviceCertificates := by
  unfold registerAccountDevice
  split
  · exact .inl rfl
  case isFalse hchecks =>
    rw [not_or, not_not] at hchecks
    obtain ⟨hid, hverified⟩ := hchecks
    rcases transaction_cases db _ with ⟨failure, hfailure⟩ |
      ⟨value, committed, hbody, hcommit⟩
    · rw [hfailure]
      exact .inl rfl
    rw [hcommit]
    split at hbody
    · cases hbody
    obtain ⟨known, hknown, hbody⟩ := bind_eq_ok.mp hbody
    split at hbody
    · cases hbody
    case isFalse hsame =>
      simp only [Database.insertDevice, Database.insertCertificate, bind_eq_ok,
        pure_eq_ok, Prod.mk.injEq, Database.insertInto_eq_ok, Bool.and_eq_true,
        decide_eq_true_eq] at hbody
      obtain ⟨_, ⟨devices, ⟨-, hdevices⟩, rfl⟩, _,
        ⟨deviceCertificates, ⟨⟨-, hissued⟩, hcertificates⟩, rfl⟩, -, rfl⟩ := hbody
      refine .inr ?_
      rcases insertAccountOrIgnore_cases hknown with ⟨rfl, hexists⟩ |
        ⟨accounts, rfl, haccounts⟩
      · obtain ⟨account, haccount⟩ := Option.isSome_iff_exists.mp hexists
        have hroot : account.rootPublicKey = rootPublicKey := by
          rw [haccount] at hsame
          simpa using hsame
        exact ⟨_, devices, deviceCertificates, rfl,
          ⟨hid, .inl ⟨account, haccount, hroot, rfl⟩⟩, by simpa using hverified, hdevices,
          hissued, hcertificates⟩
      · exact ⟨accounts, devices, deviceCertificates, rfl, ⟨hid, .inr haccounts⟩,
          by simpa using hverified, hdevices, hissued, hcertificates⟩

/-- A time that the database accepts is stored as it was signed. -/
theorem issuedAt_stored {issuedAt : UInt64} (hstored : 0 ≤ signed 64 issuedAt.toNat) :
    UInt64.ofNat (signed 64 issuedAt.toNat).toNat = issuedAt := by
  have hbound := issuedAt.toNat_lt
  unfold signed at hstored ⊢
  split at hstored
  case isTrue hsmall =>
    rw [if_pos hsmall, Int.toNat_natCast, UInt64.ofNat_toNat]
  case isFalse => omega

end Registration

/-! ## What a step keeps -/

section Steps

variable {crypto : Crypto} {db next : Database}

theorem certified_kept {device later : DeviceRow} (hkeeps : Keeps db next)
    (hcertified : Certified crypto db device) (hid : later.deviceId = device.deviceId)
    (haccount : later.accountId = device.accountId)
    (hkey : later.devicePublicKey = device.devicePublicKey) :
    Certified crypto next later := by
  obtain ⟨account, row, hfound, hrow, hverified⟩ := hcertified
  obtain ⟨known, hknown, hroot⟩ := hkeeps.accounts _ account hfound
  refine ⟨known, row, ?_, ?_, ?_⟩
  · rw [haccount]
    exact hknown
  · rw [hid]
    exact hkeeps.certificates _ row hrow
  · rw [hroot]
    simpa only [certificateOf, hid, hkey] using hverified

theorem listed_kept {member later : MemberRow} (hkeeps : Keeps db next)
    (hlisted : Listed db member) (hid : later.deviceId = member.deviceId)
    (haccount : later.accountId = member.accountId) (hrole : later.role = member.role) :
    Listed next later := by
  obtain ⟨hlow, hhigh, device, hdevice, howner⟩ := hlisted
  obtain ⟨known, hknown, hsame, -⟩ := hkeeps.devices _ device hdevice
  exact ⟨hrole ▸ hlow, hrole ▸ hhigh, known, hid ▸ hknown,
    haccount.trans (howner.trans hsame.symm)⟩

/-- Each row stands for one that was there before, or is new and has what it
needs. -/
theorem registered_of_rows (hregistered : Registered crypto db) (hkeeps : Keeps db next)
    (hdevices : ∀ device ∈ next.devices.rows,
      (∃ old ∈ db.devices.rows, device.deviceId = old.deviceId ∧
        device.accountId = old.accountId ∧
        device.devicePublicKey = old.devicePublicKey) ∨ Certified crypto next device)
    (haccounts : ∀ account ∈ next.accounts.rows,
      (∃ old ∈ db.accounts.rows, account.accountId = old.accountId ∧
        account.rootPublicKey = old.rootPublicKey) ∨
      accountIdFromRootPublic crypto account.rootPublicKey = account.accountId ∧
        ∃ device ∈ next.devices.rows, device.accountId = account.accountId)
    (hcertificates : ∀ row ∈ next.deviceCertificates.rows,
      row ∈ db.deviceCertificates.rows ∨ next.hasDevice row.deviceId = true)
    (hmembers : ∀ member ∈ next.groupMembers.rows,
      (∃ old ∈ db.groupMembers.rows, member.deviceId = old.deviceId ∧
        member.accountId = old.accountId ∧ member.role = old.role) ∨
      Listed next member) : Registered crypto next where
  devices := by
    intro device hdevice
    rcases hdevices device hdevice with ⟨old, hold, hid, haccount, hkey⟩ | hnew
    · exact certified_kept hkeeps (hregistered.devices old hold) hid haccount hkey
    · exact hnew
  accounts := by
    intro account haccount
    rcases haccounts account haccount with ⟨old, hold, hid, hroot⟩ | hnew
    · obtain ⟨hhash, device, hdevice, howner⟩ := hregistered.accounts old hold
      obtain ⟨later, hlater, hsame, -⟩ :=
        hkeeps.devices _ device (Table.mem_rows_iff.mp hdevice)
      refine ⟨by rw [hroot, hid, hhash], later, Table.mem_of_lookup hlater, ?_⟩
      rw [hsame, howner, hid]
    · exact hnew
  certificates := by
    intro row hrow
    rcases hcertificates row hrow with hold | hnew
    · obtain ⟨device, hdevice⟩ :=
        Option.isSome_iff_exists.mp (hregistered.certificates row hold)
      obtain ⟨later, hlater, -⟩ := hkeeps.devices _ device hdevice
      exact Option.isSome_iff_exists.mpr ⟨later, hlater⟩
    · exact hnew
  members := by
    intro member hmember
    rcases hmembers member hmember with ⟨old, hold, hid, haccount, hrole⟩ | hnew
    · exact listed_kept hkeeps (hregistered.members old hold) hid haccount hrole
    · exact hnew

theorem keeps_registerAccountDevice (accountId rootPublicKey : Id32)
    (cert : DeviceCertificate) :
    Keeps db (registerAccountDevice crypto accountId rootPublicKey cert db).2 := by
  rcases registerAccountDevice_inserts accountId rootPublicKey cert with hsame |
    ⟨accounts, devices, deviceCertificates, hnext, ⟨-, hclaim⟩, -, hdevices, -,
      hcertificates⟩
  · rw [hsame]
    exact keeps_refl db
  rw [hnext]
  constructor
  · intro deviceId device hdevice
    exact ⟨device, Table.lookup_kept hdevices hdevice, rfl, rfl⟩
  · intro id account haccount
    refine ⟨account, ?_, rfl⟩
    rcases hclaim with ⟨-, -, -, rfl⟩ | hinsert
    · exact haccount
    · exact Table.lookup_kept hinsert haccount
  · intro deviceId row hrow
    exact Table.lookup_kept hcertificates hrow

theorem registered_registerAccountDevice (hregistered : Registered crypto db)
    (accountId rootPublicKey : Id32) (cert : DeviceCertificate) :
    Registered crypto
      (registerAccountDevice crypto accountId rootPublicKey cert db).2 := by
  have hkeeps : Keeps db
      (registerAccountDevice crypto accountId rootPublicKey cert db).2 :=
    keeps_registerAccountDevice accountId rootPublicKey cert
  rcases registerAccountDevice_inserts accountId rootPublicKey cert with hsame |
    ⟨accounts, devices, deviceCertificates, hnext, ⟨hid, hclaim⟩, hverified, hdevices,
      hissued, hcertificates⟩
  · rw [hsame]
    exact hregistered
  rw [hnext] at hkeeps ⊢
  have hknown : ∃ account, accounts.lookup accountId = some account ∧
      account.rootPublicKey = rootPublicKey := by
    rcases hclaim with ⟨account, haccount, hroot, rfl⟩ | hinsert
    · exact ⟨account, haccount, hroot⟩
    · exact ⟨_, Table.lookup_inserted hinsert, rfl⟩
  have hadded := Table.lookup_inserted hdevices
  apply registered_of_rows hregistered hkeeps
  · intro device hdevice
    rcases Table.mem_insert? hdevices hdevice with hold | rfl
    · exact .inl ⟨device, hold, rfl, rfl, rfl⟩
    · right
      obtain ⟨account, haccount, hroot⟩ := hknown
      refine ⟨account, _, haccount, Table.lookup_inserted hcertificates, ?_⟩
      rw [hroot]
      simpa only [certificateOf, issuedAt_stored hissued] using hverified
  · intro account haccount
    rcases hclaim with ⟨-, -, -, rfl⟩ | hinsert
    · exact .inl ⟨account, haccount, rfl, rfl⟩
    · rcases Table.mem_insert? hinsert haccount with hold | rfl
      · exact .inl ⟨account, hold, rfl, rfl⟩
      · exact .inr ⟨hid, _, Table.mem_of_lookup hadded, rfl⟩
  · intro row hrow
    rcases Table.mem_insert? hcertificates hrow with hold | rfl
    · exact .inl hold
    · exact .inr (Option.isSome_iff_exists.mpr ⟨_, hadded⟩)
  · exact fun member hmember => .inl ⟨member, hmember, rfl, rfl, rfl⟩

theorem keeps_storeRecoveryPackage (accountId recoveryIdentifier : Id32) (blob : Bytes) :
    Keeps db (storeRecoveryPackage accountId recoveryIdentifier blob db).2 := by
  unfold storeRecoveryPackage
  split_ifs
  · exact keeps_refl db
  · exact keeps_refl db
  · exact keeps_refl db
  refine ⟨fun _ device hdevice => ⟨device, hdevice, rfl, rfl⟩, ?_, fun _ _ hrow => hrow⟩
  intro id account haccount
  rw [Table.lookup_modify]
  split
  case isTrue hsame =>
    rw [← hsame, haccount, Option.map_some]
    refine ⟨_, rfl, ?_⟩
    split <;> rfl
  case isFalse => exact ⟨account, haccount, rfl⟩

theorem registered_storeRecoveryPackage (hregistered : Registered crypto db)
    (accountId recoveryIdentifier : Id32) (blob : Bytes) :
    Registered crypto (storeRecoveryPackage accountId recoveryIdentifier blob db).2 := by
  have hkeeps : Keeps db (storeRecoveryPackage accountId recoveryIdentifier blob db).2 :=
    keeps_storeRecoveryPackage accountId recoveryIdentifier blob
  unfold storeRecoveryPackage at hkeeps ⊢
  split_ifs at hkeeps ⊢
  · exact hregistered
  · exact hregistered
  · exact hregistered
  apply registered_of_rows hregistered hkeeps
  · exact fun device hdevice => .inl ⟨device, hdevice, rfl, rfl, rfl⟩
  · intro account haccount
    obtain ⟨old, hold, rfl | rfl⟩ :=
      Table.mem_modify (accountId_withRecovery recoveryIdentifier blob) haccount
    · exact .inl ⟨_, hold, rfl, rfl⟩
    · exact .inl ⟨_, hold, rfl, rfl⟩
  · exact fun row hrow => .inl hrow
  · exact fun member hmember => .inl ⟨member, hmember, rfl, rfl, rfl⟩

/-- A step that touches neither devices, accounts nor certificates. -/
theorem registered_of_members (hregistered : Registered crypto db)
    (hdevices : next.devices = db.devices) (haccounts : next.accounts = db.accounts)
    (hcertificates : next.deviceCertificates = db.deviceCertificates)
    (hmembers : ∀ member ∈ next.groupMembers.rows,
      (∃ old ∈ db.groupMembers.rows, member.deviceId = old.deviceId ∧
        member.accountId = old.accountId ∧ member.role = old.role) ∨
      Listed next member) :
    Keeps db next ∧ Registered crypto next := by
  have hkeeps : Keeps db next := by
    constructor
    · rw [hdevices]
      exact (keeps_refl db).devices
    · rw [haccounts]
      exact (keeps_refl db).accounts
    · rw [hcertificates]
      exact (keeps_refl db).certificates
  refine ⟨hkeeps, registered_of_rows hregistered hkeeps ?_ ?_ ?_ hmembers⟩
  · rw [hdevices]
    exact fun device hdevice => .inl ⟨device, hdevice, rfl, rfl, rfl⟩
  · rw [haccounts]
    exact fun account haccount => .inl ⟨account, haccount, rfl, rfl⟩
  · rw [hcertificates]
    exact fun row hrow => .inl hrow

/-- What a call makes of the members is made of their devices. -/
theorem members_of_effect {now : Time} {caller : Option Id16}
    (heffect : Effect crypto now caller db next) (hdevices : next.devices = db.devices) :
    ∀ member ∈ next.groupMembers.rows,
      (∃ old ∈ db.groupMembers.rows, member.deviceId = old.deviceId ∧
        member.accountId = old.accountId ∧ member.role = old.role) ∨
      Listed next member := by
  intro found hfound
  cases heffect with
  | quiet hquiet =>
      rw [hquiet.members] at hfound
      exact .inl ⟨found, hfound, rfl, rfl, rfl⟩
  | created groupId creator device hdevice hgroup hmember =>
      rcases Table.mem_insert? hmember hfound with hold | rfl
      · exact .inl ⟨found, hold, rfl, rfl, rfl⟩
      · exact .inr ⟨Int.zero_le_ofNat 2, le_refl 2, device, hdevice, rfl⟩
  | removed request hremove hlogged member htarget hmembers =>
      have hlookup := Table.mem_rows_iff.mp hfound
      rw [hmembers] at hlookup
      split at hlookup
      · cases hlookup
        exact .inl ⟨member, Table.mem_of_lookup htarget, rfl, rfl, rfl⟩
      · exact .inl ⟨found, Table.mem_of_lookup hlookup, rfl, rfl, rfl⟩
  | admitted request hadmitted hlogged device hdevice hmembers =>
      have hlookup := Table.mem_rows_iff.mp hfound
      rw [hmembers] at hlookup
      split at hlookup
      · cases hlookup
        exact .inr ⟨hlogged.role.1, hlogged.role.2, device, by rw [hdevices]; exact hdevice,
          rfl⟩
      · exact .inl ⟨found, Table.mem_of_lookup hlookup, rfl, rfl, rfl⟩
  | posted event hauthor hposted =>
      rw [hposted.members] at hfound
      exact .inl ⟨found, hfound, rfl, rfl, rfl⟩

theorem perform_registered (moment : Moment) (hregistered : Registered crypto db)
    (call : Call) :
    Keeps db (call.perform crypto moment db) ∧
      Registered crypto (call.perform crypto moment db) := by
  have heffect := perform_effect crypto moment db call
  have hextent := perform_extent crypto moment db call
  generalize hnext : call.perform crypto moment db = next at heffect hextent ⊢
  cases call with
  | registerAccountDevice accountId rootPublicKey cert =>
      subst hnext
      exact ⟨keeps_registerAccountDevice accountId rootPublicKey cert,
        registered_registerAccountDevice hregistered accountId rootPublicKey cert⟩
  | storeRecoveryPackage accountId recoveryIdentifier blob =>
      subst hnext
      exact ⟨keeps_storeRecoveryPackage accountId recoveryIdentifier blob,
        registered_storeRecoveryPackage hregistered accountId recoveryIdentifier blob⟩
  | _ =>
      cases hextent
      exact registered_of_members hregistered rfl rfl rfl (members_of_effect heffect rfl)

theorem revokeDevice_registered (hregistered : Registered crypto db) (now : Time)
    (deviceId : Id16) :
    Keeps db (revokeDevice now deviceId db) ∧
      Registered crypto (revokeDevice now deviceId db) := by
  have hkeeps : Keeps db (revokeDevice now deviceId db) := by
    refine ⟨?_, (keeps_refl db).accounts, (keeps_refl db).certificates⟩
    intro id device hdevice
    simp only [revokeDevice, Table.lookup_modify]
    split
    case isTrue hsame =>
      rw [← hsame, hdevice]
      exact ⟨_, rfl, rfl, rfl⟩
    case isFalse => exact ⟨device, hdevice, rfl, rfl⟩
  refine ⟨hkeeps, registered_of_rows hregistered hkeeps ?_ ?_ ?_ ?_⟩
  · intro device hdevice
    obtain ⟨old, hold, rfl | rfl⟩ := Table.mem_modify (Revocation.deviceId_revoked now) hdevice
    · exact .inl ⟨_, hold, rfl, rfl, rfl⟩
    · exact .inl ⟨_, hold, rfl, rfl, rfl⟩
  · exact fun account haccount => .inl ⟨account, haccount, rfl, rfl⟩
  · exact fun row hrow => .inl hrow
  · exact fun member hmember => .inl ⟨member, hmember, rfl, rfl, rfl⟩

theorem step_registered (label : Label) (hregistered : Registered crypto db) :
    Keeps db (step crypto db label) ∧ Registered crypto (step crypto db label) := by
  cases label with
  | request request =>
      rw [step, serve_requested]
      cases requestedCall crypto request.moment.now request.frame db with
      | none => exact ⟨keeps_refl db, hregistered⟩
      | some call => exact perform_registered request.moment hregistered call
  | revoke now deviceId => exact revokeDevice_registered hregistered now deviceId
  | cleanup now batch scan =>
      exact registered_of_members hregistered rfl rfl rfl
        fun member hmember => .inl ⟨member, hmember, rfl, rfl, rfl⟩

theorem registered_migrated : Registered crypto Database.migrated where
  devices := by simp [Database.migrated, Table.empty]
  accounts := by simp [Database.migrated, Table.empty]
  certificates := by simp [Database.migrated, Table.empty]
  members := by simp [Database.migrated, Table.empty]

theorem step_keeps_registered (db : Database) (label : Label)
    (hregistered : Registered crypto db) : Registered crypto (step crypto db label) :=
  (step_registered label hregistered).2

theorem registered_run (labels : List Label) :
    Registered crypto (run (step crypto) Database.migrated labels) :=
  run_invariant step_keeps_registered registered_migrated labels

end Steps

/-- After any requests, revocations and cleanups the four tables agree, and what
they say about an account or a device stays as it was first stored. -/
theorem registrations_hold (crypto : Crypto) (labels : List Label) :
    Registered crypto (run (step crypto) Database.migrated labels) ∧
      Ascending (step crypto) Keeps Database.migrated labels := by
  refine ⟨registered_run labels, ?_⟩
  rw [ascending_iff_guarded keeps_refl keeps_trans]
  exact guarded_of_invariant step_keeps_registered
    (fun _ label hregistered => (step_registered label hregistered).1)
    registered_migrated labels

end ResilientMessenger.Registrations
