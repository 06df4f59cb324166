import ResilientMessenger.Transport.Contacts

/-!
# Which directories are trusted

A directory is checked once, when it is installed.  From then on its relays are
contacted whatever the time is, and it can be replaced by another directory of
the same version.  For both defects this module gives the runs that are free of
them: those in which no flush with work to do happens after the expiry, and those
in which no acceptable candidate repeats the installed version.
-/

namespace ResilientMessenger.RelayTrust

open ResilientMessenger.ByteCodec
open ResilientMessenger.Frames
open ResilientMessenger.Directory
open ResilientMessenger.Manager
open ResilientMessenger.Runs
open ResilientMessenger.Outbox (Operation)
open ResilientMessenger.Contacts

variable {σ : Type}

/-! ## Verification -/

/-- The validity interval contains the time, with five minutes of tolerance for
its start. -/
def Timely (directory : SignedRelayDirectory) (now : UInt64) : Prop :=
  directory.issuedAt ≤ saturatingAdd now 300 ∧ now < directory.expiresAt ∧
    directory.issuedAt < directory.expiresAt

/-- The signature belongs to the signed bytes. -/
def Signed (scheme : SignatureScheme) (publicKey : Id32)
    (directory : SignedRelayDirectory) : Prop :=
  scheme.validKey publicKey = true ∧ ∃ message, directory.signingBytes = .ok message ∧
    scheme.verify publicKey message directory.signature = true

/-- Verification refuses versions below the minimum, and no others. -/
theorem verify_eq_ok {scheme : SignatureScheme} {directory : SignedRelayDirectory}
    {publicKey : Id32} {now minimumVersion : UInt64} :
    directory.verify scheme publicKey now minimumVersion = .ok () ↔
      minimumVersion ≤ directory.version ∧ Timely directory now ∧
        Signed scheme publicKey directory := by
  unfold SignedRelayDirectory.verify Timely Signed
  split
  case isTrue hrollback => simp [UInt64.not_le.mpr hrollback]
  case isFalse hnewer =>
    split
    case isTrue htime =>
      simp only [reduceCtorEq, false_iff]
      rintro ⟨-, ⟨hissued, hexpires, hinterval⟩, -⟩
      rcases htime with htime | htime | htime
      · exact UInt64.not_lt.mpr hissued htime
      · exact UInt64.not_le.mpr hexpires htime
      · exact UInt64.not_le.mpr hinterval htime
    case isFalse htime =>
      simp only [not_or, UInt64.not_lt, UInt64.not_le] at htime hnewer
      split
      case isTrue hkey => simp_all
      case isFalse hkey =>
        split
        case h_1 failure hbytes => simp [hbytes]
        case h_2 message hbytes =>
          split
          case isTrue hsigned => simp_all
          case isFalse hunsigned => simp_all

/-! ## Replacing the directory -/

structure Update where
  candidate : SignedRelayDirectory
  now : UInt64

section Updates

variable (scheme : SignatureScheme)

def accepted (manager : TransportManager σ) (update : Update) : Prop :=
  (manager.updateDirectory scheme update.candidate update.now).1 = .ok ()

/-- The manager after one call of `update_directory`. -/
def install (manager : TransportManager σ) (update : Update) : TransportManager σ :=
  (manager.updateDirectory scheme update.candidate update.now).2

/-- The candidate has the version that is installed, and is signed and timely. -/
def RepeatsVersion (manager : TransportManager σ) (update : Update) : Prop :=
  update.candidate.version = manager.directory.version ∧
    Timely update.candidate update.now ∧
    Signed scheme manager.verificationKey update.candidate

variable {scheme}

theorem accepted_iff {manager : TransportManager σ} {update : Update} :
    accepted scheme manager update ↔
      manager.directory.version ≤ update.candidate.version ∧
        Timely update.candidate update.now ∧
        Signed scheme manager.verificationKey update.candidate := by
  rw [← verify_eq_ok, accepted, TransportManager.updateDirectory]
  cases hverify : update.candidate.verify scheme manager.verificationKey update.now
    manager.directory.version <;> simp

theorem install_of_accepted {manager : TransportManager σ} {update : Update}
    (haccepted : accepted scheme manager update) :
    install scheme manager update = { manager with directory := update.candidate } := by
  rw [accepted_iff, ← verify_eq_ok] at haccepted
  simp only [install, TransportManager.updateDirectory, haccepted]

theorem install_of_rejected {manager : TransportManager σ} {update : Update}
    (hrejected : ¬accepted scheme manager update) :
    install scheme manager update = manager := by
  rw [accepted_iff, ← verify_eq_ok] at hrejected
  unfold install TransportManager.updateDirectory
  cases hverify : update.candidate.verify scheme manager.verificationKey update.now
    manager.directory.version with
  | error failure => rfl
  | ok value => exact absurd hverify hrejected

/-- Unless the candidate repeats the version, acceptance means a newer one. -/
theorem newer_of_accepted {manager : TransportManager σ} {update : Update}
    (hfresh : ¬RepeatsVersion scheme manager update)
    (haccepted : accepted scheme manager update) :
    manager.directory.version < update.candidate.version := by
  obtain ⟨hversion, hvalid⟩ := accepted_iff.mp haccepted
  have hne : update.candidate.version ≠ manager.directory.version :=
    fun hsame => hfresh ⟨hsame, hvalid⟩
  rw [UInt64.le_iff_toNat_le] at hversion
  rw [UInt64.lt_iff_toNat_lt]
  have hnat : update.candidate.version.toNat ≠ manager.directory.version.toNat :=
    fun hsame => hne (UInt64.toNat_inj.mp hsame)
  omega

/-- The later manager has the same directory or one of a newer version. -/
def Advanced (manager later : TransportManager σ) : Prop :=
  later.directory = manager.directory ∨
    manager.directory.version < later.directory.version

theorem advanced_trans {first second third : TransportManager σ}
    (hfirst : Advanced first second) (hsecond : Advanced second third) :
    Advanced first third := by
  rcases hfirst with hsame | hnewer
  · rw [Advanced, ← hsame]
    exact hsecond
  · rcases hsecond with hsame | hlater
    · rw [Advanced, hsame]
      exact .inr hnewer
    · exact .inr (UInt64.lt_trans hnewer hlater)

theorem advanced_install {manager : TransportManager σ} {update : Update}
    (hfresh : ¬RepeatsVersion scheme manager update) :
    Advanced manager (install scheme manager update) := by
  by_cases haccepted : accepted scheme manager update
  · rw [install_of_accepted haccepted]
    exact .inr (newer_of_accepted hfresh haccepted)
  · rw [install_of_rejected haccepted]
    exact .inl rfl

variable (scheme)

/-- What a run of updates should guarantee. -/
structure RollbackFree (start : TransportManager σ) (updates : List Update) : Prop where
  /-- Only a newer version is installed. -/
  newer : ∀ before update after, updates = before ++ update :: after →
    accepted scheme (run (install scheme) start before) update →
      (run (install scheme) start before).directory.version <
        update.candidate.version
  /-- A directory that gave way to another is not installed again. -/
  replaced : ∀ first second update after,
    updates = first ++ second ++ update :: after →
      (run (install scheme) start (first ++ second)).directory ≠
        (run (install scheme) start first).directory →
      accepted scheme (run (install scheme) start (first ++ second)) update →
        update.candidate ≠ (run (install scheme) start first).directory
  /-- A rejected candidate changes nothing. -/
  rejected : ∀ before update after, updates = before ++ update :: after →
    ¬accepted scheme (run (install scheme) start before) update →
      install scheme (run (install scheme) start before) update =
        run (install scheme) start before

/-- A run of updates is free of rollbacks exactly when no signed and timely
candidate repeats the version that is installed at its time. -/
theorem rollback_free_iff (start : TransportManager σ) (updates : List Update) :
    RollbackFree scheme start updates ↔
      Guarded (install scheme)
        (fun manager update => ¬RepeatsVersion scheme manager update) start updates := by
  constructor
  · intro hfree
    rw [guarded_iff]
    intro before update after hupdates hrepeats
    have haccepted : accepted scheme (run (install scheme) start before) update :=
      accepted_iff.mpr ⟨UInt64.le_of_eq hrepeats.1.symm, hrepeats.2⟩
    have hnewer := hfree.newer before update after hupdates haccepted
    rw [hrepeats.1] at hnewer
    exact UInt64.lt_irrefl _ hnewer
  · intro hguarded
    have hfresh := guarded_iff.mp hguarded
    refine ⟨?_, ?_, ?_⟩
    · intro before update after hupdates haccepted
      exact newer_of_accepted (hfresh before update after hupdates) haccepted
    · intro first second update after hupdates hother haccepted hagain
      have hnewer := newer_of_accepted
        (hfresh (first ++ second) update after hupdates) haccepted
      rw [hagain] at hnewer
      -- the directory has changed since, so its version is behind
      have hadvanced : Advanced (run (install scheme) start first)
          (run (install scheme) start (first ++ second)) := by
        rw [hupdates, List.append_assoc] at hguarded
        have hsecond := (guarded_append.mp (guarded_append.mp hguarded).2).1
        rw [run_append]
        exact related_of_guarded (R := Advanced) (fun _ => .inl rfl)
          (fun _ _ _ => advanced_trans)
          (guarded_mono (fun _ _ => advanced_install) hsecond)
      rcases hadvanced with hsame | hbehind
      · exact hother hsame
      · exact UInt64.lt_irrefl _ (UInt64.lt_trans hnewer hbehind)
    · intro before update after _ hrejected
      exact install_of_rejected hrejected

end Updates

/-- A directory of version 2 with one relay, signed under the neutral key. -/
def oneRelay (relay : UInt8) : SignedRelayDirectory where
  version := 2
  issuedAt := 0
  expiresAt := 3600
  endpoints := [⟨FixedBytes.fill 16 relay, "wss://a/ws", "https://a/sync", 1⟩]
  signature := SignatureScheme.neutralSignature

def oneRelayManager (relay : UInt8) : TransportManager Unit where
  sender := ()
  directory := oneRelay relay
  verificationKey := SignatureScheme.neutralKey
  outbox := []
  health := Table.empty
  counters := ⟨0, 0, 0, 0, 0, 0⟩
  preferredEndpoint := none

def backAndForth : List Update := [⟨oneRelay 2, 10⟩, ⟨oneRelay 1, 20⟩]

/-- The first directory is replaced by another one of its version and then
installed again. -/
theorem replaced_directory_returns :
    (run (install SignatureScheme.neutral) (oneRelayManager 1)
        (backAndForth.take 1)).directory = oneRelay 2 ∧
      (run (install SignatureScheme.neutral) (oneRelayManager 1)
        backAndForth).directory = oneRelay 1 ∧
      ¬RollbackFree SignatureScheme.neutral (oneRelayManager 1) backAndForth := by
  refine ⟨by decide +kernel, by decide +kernel, ?_⟩
  intro hfree
  have haccepted : accepted SignatureScheme.neutral (oneRelayManager 1)
      ⟨oneRelay 2, 10⟩ := by
    unfold accepted
    decide +kernel
  have hnewer := hfree.newer [] ⟨oneRelay 2, 10⟩ [⟨oneRelay 1, 20⟩] rfl haccepted
  exact absurd hnewer (by decide +kernel)

/-! ## Using the directory -/

/-- A manager with the time at which its directory was installed. -/
structure Client (σ : Type) where
  manager : TransportManager σ
  installedAt : UInt64

namespace Client

def step (scheme : SignatureScheme) (sender : EndpointSender σ) (client : Client σ) :
    Operation → Client σ
  | .enqueue frame => { client with manager := (client.manager.enqueue frame).2 }
  | .flush now => { client with manager := (client.manager.flush sender now).2.1 }
  | .updateDirectory next now =>
      match client.manager.updateDirectory scheme next now with
      | (.ok (), manager) => ⟨manager, now⟩
      | (.error _, manager) => { client with manager }
  | .notifyNetworkChange =>
      { client with manager := client.manager.notifyNetworkChange }

/-- The directory passed verification under the manager's key when it was
installed. -/
def Verified (scheme : SignatureScheme) (client : Client σ) : Prop :=
  client.manager.directory.verify scheme client.manager.verificationKey
    client.installedAt 0 = .ok ()

/-- Whoever the operation contacts is a relay of a verified directory that has not
expired. -/
def Trustworthy (scheme : SignatureScheme) (sender : EndpointSender σ)
    (client : Client σ) : Operation → Prop
  | .flush now => ∀ contact ∈ contacts (client.manager.flush sender now).2.2,
      contact.endpoint ∈ client.manager.directory.endpoints ∧
        client.Verified scheme ∧ now < client.manager.directory.expiresAt
  | _ => True

/-- A flush that has something to do happens before the directory expires. -/
def InTime (client : Client σ) : Operation → Prop
  | .flush now => Idle client.manager now ∨ now < client.manager.directory.expiresAt
  | _ => True

section Steps

variable {scheme : SignatureScheme} {sender : EndpointSender σ}

theorem verified_of_identity {client next : Client σ}
    (hverified : client.Verified scheme)
    (hidentity : identity next.manager = identity client.manager)
    (hinstalled : next.installedAt = client.installedAt) : next.Verified scheme := by
  obtain ⟨hdirectory, hkey⟩ := Prod.mk.inj hidentity
  rw [Verified, hdirectory, hkey, hinstalled]
  exact hverified

theorem verified_step {client : Client σ} (hverified : client.Verified scheme)
    (operation : Operation) : (client.step scheme sender operation).Verified scheme := by
  cases operation with
  | enqueue frame =>
      have hkept : identity (client.manager.enqueue frame).2 =
          identity client.manager := by
        unfold TransportManager.enqueue
        split
        · rfl
        · split <;> rfl
      exact verified_of_identity hverified hkept rfl
  | flush now =>
      exact verified_of_identity hverified
        (flushLoop_contacts_mem sender now _ [] client.manager).1 rfl
  | updateDirectory next now =>
      simp only [step, TransportManager.updateDirectory]
      cases hverify : next.verify scheme client.manager.verificationKey now
          client.manager.directory.version with
      | error failure => exact hverified
      | ok value =>
          obtain ⟨-, hvalid⟩ := verify_eq_ok.mp hverify
          exact verify_eq_ok.mpr ⟨UInt64.zero_le, hvalid⟩
  | notifyNetworkChange => exact verified_of_identity hverified rfl rfl

/-- One operation contacts only whom it may exactly when it is in time. -/
theorem trustworthy_iff {client : Client σ} (hverified : client.Verified scheme)
    (operation : Operation) :
    client.Trustworthy scheme sender operation ↔ client.InTime operation := by
  cases operation with
  | flush now =>
      simp only [Trustworthy, InTime, ← flush_contacts_nil sender]
      constructor
      · intro htrusted
        cases hcalls : contacts (client.manager.flush sender now).2.2 with
        | nil => exact .inl rfl
        | cons first others =>
            have hfirst := htrusted first (by rw [hcalls]; exact List.mem_cons_self)
            exact .inr hfirst.2.2
      · rintro (hnobody | hvalid) contact hcontact
        · rw [hnobody] at hcontact
          cases hcontact
        · refine ⟨?_, hverified, hvalid⟩
          exact (flushLoop_contacts_mem sender now _ [] client.manager).2 contact hcontact
  | enqueue => exact Iff.rfl
  | updateDirectory => exact Iff.rfl
  | notifyNetworkChange => exact Iff.rfl

end Steps

end Client

theorem verified_new {scheme : SignatureScheme} {network : σ}
    {directory : SignedRelayDirectory} {verificationKey : Id32} {now : UInt64}
    {manager : TransportManager σ}
    (hnew : TransportManager.new scheme network directory verificationKey now =
      .ok manager) : (⟨manager, now⟩ : Client σ).Verified scheme := by
  unfold TransportManager.new at hnew
  cases hverify : directory.verify scheme verificationKey now 0 with
  | error failure =>
      rw [hverify] at hnew
      cases hnew
  | ok value =>
      rw [hverify] at hnew
      cases hnew
      exact hverify

/-- Every operation of the run contacts only whom it may. -/
def ContactsTrustworthy (scheme : SignatureScheme) (sender : EndpointSender σ)
    (client : Client σ) (operations : List Operation) : Prop :=
  ∀ before operation after, operations = before ++ operation :: after →
    (run (Client.step scheme sender) client before).Trustworthy scheme sender operation

/-- In every run of a new manager, the flushes contact only relays of a verified
directory that has not expired, exactly when each flush with work to do happens
before its directory expires. -/
theorem contacts_trustworthy_iff (scheme : SignatureScheme) (sender : EndpointSender σ)
    (network : σ) (directory : SignedRelayDirectory) (verificationKey : Id32)
    (installedAt : UInt64) (manager : TransportManager σ)
    (hnew : TransportManager.new scheme network directory verificationKey installedAt =
      .ok manager) (operations : List Operation) :
    ContactsTrustworthy scheme sender ⟨manager, installedAt⟩ operations ↔
      Guarded (Client.step scheme sender) Client.InTime ⟨manager, installedAt⟩
        operations := by
  have hkeep (client : Client σ) (operation : Operation)
      (hverified : client.Verified scheme) :
      (client.step scheme sender operation).Verified scheme :=
    Client.verified_step hverified operation
  have hagree (client : Client σ) (operation : Operation)
      (hverified : client.Verified scheme) :
      client.Trustworthy scheme sender operation ↔ client.InTime operation :=
    Client.trustworthy_iff hverified operation
  rw [ContactsTrustworthy, ← guarded_iff]
  exact guarded_congr hkeep hagree (verified_new hnew) operations

/-- The sample manager sends a frame in time. -/
theorem timely_flush_trustworthy :
    ContactsTrustworthy SignatureScheme.neutral Outbox.scripted
      ⟨Outbox.sampleManager [true], 1000⟩
      [.enqueue (Outbox.sampleFrame 8), .flush 1000] :=
  (contacts_trustworthy_iff SignatureScheme.neutral Outbox.scripted [true]
    Outbox.sampleDirectory SignatureScheme.neutralKey 1000 (Outbox.sampleManager [true])
    rfl _).mpr ⟨trivial, .inr (by decide +kernel), trivial⟩

/-- The frame is sent to the first relay after the directory has expired. -/
theorem expired_directory_contacted :
    ¬ContactsTrustworthy SignatureScheme.neutral Outbox.scripted
      ⟨Outbox.sampleManager [true], 1000⟩
      [.enqueue (Outbox.sampleFrame 8), .flush 5000] := by
  intro htrusted
  have hflush := htrusted [.enqueue (Outbox.sampleFrame 8)] (.flush 5000) [] rfl
  have hcalled : (contacts ((run (Client.step SignatureScheme.neutral Outbox.scripted)
      ⟨Outbox.sampleManager [true], 1000⟩
      [.enqueue (Outbox.sampleFrame 8)]).manager.flush Outbox.scripted 5000).2.2).length =
        1 := by decide +kernel
  obtain ⟨contact, hcontact⟩ := List.exists_mem_of_length_pos
    (Nat.lt_of_lt_of_eq Nat.one_pos hcalled.symm)
  exact absurd (hflush contact hcontact).2.2 (by decide +kernel)

end ResilientMessenger.RelayTrust
