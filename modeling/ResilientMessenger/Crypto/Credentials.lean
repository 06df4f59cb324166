import ResilientMessenger.Crypto.Engine
import ResilientMessenger.Identity.Accounts
import ResilientMessenger.Server.LongPolls
import ResilientMessenger.Server.Registrations

/-!
# Credentials of group members

A leaf of a group names its device, its account and the fingerprint of the device's
certificate.  `verify_eq_ok` says what a peer accepts for a root key and a
certificate: one string of bytes, if the certificate is good.
`registered_credential` ties that to the server: for every device it has
registered, the string that peers accept is the one that names the device and its
account.
-/

namespace ResilientMessenger.Credentials

open ResilientMessenger.ByteCodec
open ResilientMessenger.Identity
open ResilientMessenger.Schema
open ResilientMessenger.Endpoint
open ResilientMessenger.Engine
open ResilientMessenger.Registrations (certificateOf)
open ResilientMessenger.Runs

/-! ## What a peer accepts -/

/-- A slice as an array. -/
def tryInto (length : ℕ) (bytes : Bytes) : Except CryptoError (FixedBytes length) :=
  match FixedBytes.ofBytes? length bytes with
  | some array => .ok array
  | none => .error .invalidCredential

def decode (value : Bytes) : Except CryptoError MemberCredential :=
  if value.length ≠ 65 ∨ value.getD 0 0 ≠ 1 then .error .invalidCredential
  else do
    let deviceId ← tryInto 16 (slice value 1 17)
    let accountId ← tryInto 32 (slice value 17 49)
    let certificateFingerprint ← tryInto 16 (slice value 49 65)
    pure { deviceId, accountId, certificateFingerprint }

def verifyMemberCredential (crypto : Crypto) (value : Bytes) (rootPublicKey : Id32)
    (certificate : DeviceCertificate) : Except CryptoError MemberCredential := do
  let member ← decode value
  if member.accountId ≠ accountIdFromRootPublic crypto rootPublicKey ∨
      member.deviceId ≠ certificate.deviceId ∨
      member.certificateFingerprint ≠ deviceCertificateFingerprint crypto certificate ∨
      !verifyDeviceCertificate crypto rootPublicKey certificate then
    .error .invalidCredential
  else .ok member

theorem tryInto_eq_ok {length : ℕ} {bytes : Bytes} {array : FixedBytes length} :
    tryInto length bytes = .ok array ↔ array.toList = bytes := by
  rw [← FixedBytes.ofBytes?_eq_some, tryInto]
  cases FixedBytes.ofBytes? length bytes <;> simp

theorem length_encode (member : MemberCredential) : member.encode.length = 65 := by
  simp [MemberCredential.encode]

/-- The fields of a credential stand at their offsets. -/
theorem eq_encode_iff {value : Bytes} (hlength : value.length = 65)
    {member : MemberCredential} :
    value = member.encode ↔
      value.getD 0 0 = 1 ∧ slice value 1 17 = member.deviceId.toList ∧
        slice value 17 49 = member.accountId.toList ∧
        slice value 49 65 = member.certificateFingerprint.toList := by
  have hend : value.drop 65 = [] := List.drop_eq_nil_of_le hlength.le
  have hlast : value.drop 49 = member.certificateFingerprint.toList ↔
      slice value 49 65 = member.certificateFingerprint.toList := by
    rw [← List.append_nil member.certificateFingerprint.toList,
      drop_eq_append_iff 65 (by simp), hend]
    simp
  calc value = member.encode
      ↔ value.drop 0 = 1 :: (member.deviceId.toList ++ (member.accountId.toList ++
          member.certificateFingerprint.toList)) := by
        simp [MemberCredential.encode]
    _ ↔ _ := by
        rw [drop_eq_cons_iff (by omega), drop_eq_append_iff 17 (by simp),
          drop_eq_append_iff 49 (by simp), hlast]

/-- The bytes are read as the credential that is written as them. -/
theorem decode_eq_ok {value : Bytes} {member : MemberCredential} :
    decode value = .ok member ↔ value = member.encode := by
  unfold decode
  by_cases hlength : value.length = 65
  · rw [eq_encode_iff hlength]
    split
    case isTrue hrefused =>
      rcases hrefused with hother | hfirst
      · exact absurd hlength hother
      · constructor
        · intro hok
          cases hok
        · rintro ⟨hone, -⟩
          exact absurd hone hfirst
    case isFalse hread =>
      have hfirst : value.getD 0 0 = 1 := by
        rw [not_or, not_not, not_not] at hread
        exact hread.2
      simp only [Transaction.bind_eq_ok, Transaction.pure_eq_ok, tryInto_eq_ok]
      constructor
      · rintro ⟨deviceId, hdevice, accountId, haccount, fingerprint, hfingerprint, rfl⟩
        exact ⟨hfirst, hdevice.symm, haccount.symm, hfingerprint.symm⟩
      · rintro ⟨-, hdevice, haccount, hfingerprint⟩
        exact ⟨_, hdevice.symm, _, haccount.symm, _, hfingerprint.symm, rfl⟩
  · have hother : value ≠ member.encode := by
      rintro rfl
      exact hlength (length_encode member)
    rw [if_pos (.inl hlength)]
    simp [hother]

/-- The credential of a device. -/
def credentialOf (crypto : Crypto) (accountId : Id32) (certificate : DeviceCertificate) :
    MemberCredential where
  deviceId := certificate.deviceId
  accountId
  certificateFingerprint := deviceCertificateFingerprint crypto certificate

/-- For a root key and a certificate a peer accepts one string of bytes, if the
certificate is good, and nothing if it is not. -/
theorem verify_eq_ok {crypto : Crypto} {value : Bytes} {rootPublicKey : Id32}
    {certificate : DeviceCertificate} {member : MemberCredential} :
    verifyMemberCredential crypto value rootPublicKey certificate = .ok member ↔
      verifyDeviceCertificate crypto rootPublicKey certificate = true ∧
        member = credentialOf crypto (accountIdFromRootPublic crypto rootPublicKey)
          certificate ∧
        value = member.encode := by
  simp only [verifyMemberCredential, Transaction.bind_eq_ok, decode_eq_ok]
  constructor
  · rintro ⟨read, rfl, hok⟩
    split at hok
    · cases hok
    case isFalse hfields =>
      cases hok
      simp only [not_or, not_not, Bool.not_eq_true', Bool.not_eq_false] at hfields
      obtain ⟨haccount, hdevice, hfingerprint, hverified⟩ := hfields
      refine ⟨hverified, ?_, rfl⟩
      obtain ⟨deviceId, accountId, fingerprint⟩ := member
      cases haccount
      cases hdevice
      cases hfingerprint
      rfl
  · rintro ⟨hverified, rfl, rfl⟩
    refine ⟨_, rfl, ?_⟩
    rw [if_neg]
    simp [credentialOf, hverified]

/-! ## What the server has registered -/

/-- However requests interleave, peers accept every device that the server knows,
under the one credential that names the device and its account. -/
theorem registered_credential (crypto : Crypto) (labels : List Label) (device : DeviceRow)
    (hdevice : device ∈ (run (step crypto) App.start labels).db.devices.rows) :
    ∃ account row,
      (run (step crypto) App.start labels).db.accounts.lookup device.accountId =
        some account ∧
      (run (step crypto) App.start labels).db.deviceCertificates.lookup device.deviceId =
        some row ∧
      ∀ value member,
        verifyMemberCredential crypto value account.rootPublicKey
            (certificateOf device row) = .ok member ↔
          member = ⟨device.deviceId, device.accountId,
            deviceCertificateFingerprint crypto (certificateOf device row)⟩ ∧
          value = member.encode := by
  have hregistered : Registrations.Registered crypto
      (run (step crypto) App.start labels).db := by
    rw [run_db]
    exact Registrations.registered_run _
  obtain ⟨account, row, haccount, hrow, hverified⟩ := hregistered.devices device hdevice
  refine ⟨account, row, haccount, hrow, ?_⟩
  intro value member
  have hid : accountIdFromRootPublic crypto account.rootPublicKey = device.accountId := by
    rw [(hregistered.accounts account (Table.mem_of_lookup haccount)).1]
    exact Table.key_of_lookup haccount
  rw [verify_eq_ok, hid, and_iff_right hverified]
  rfl

def loginDevice : DeviceRow :=
  ⟨FixedBytes.fill 16 3, Responses.neutralAccount, SignatureScheme.neutralKey, none⟩

theorem login_credential :
    ∃ account row,
      (run (step Responses.sessionCrypto) App.start LongPolls.quietPoll).db.accounts.lookup
        Responses.neutralAccount = some account ∧
      (run (step Responses.sessionCrypto) App.start
        LongPolls.quietPoll).db.deviceCertificates.lookup (FixedBytes.fill 16 3) =
          some row ∧
      ∀ value member,
        verifyMemberCredential Responses.sessionCrypto value account.rootPublicKey
            (certificateOf loginDevice row) = .ok member ↔
          member = ⟨FixedBytes.fill 16 3, Responses.neutralAccount,
            deviceCertificateFingerprint Responses.sessionCrypto
              (certificateOf loginDevice row)⟩ ∧
          value = member.encode :=
  registered_credential Responses.sessionCrypto LongPolls.quietPoll loginDevice
    (by decide +kernel)

end ResilientMessenger.Credentials
