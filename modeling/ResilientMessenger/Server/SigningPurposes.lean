import ResilientMessenger.Identity.Invites
import ResilientMessenger.Server.Backend
import ResilientMessenger.Transport.DirectoryCodec

/-!
# The purposes of a signature

Roots, devices and the directory authority sign byte strings of six kinds, built
in three crates.  Four kinds start with a text that names the purpose; device
certificates and invites do not.  What keeps the kinds apart is their length, and
for membership operations and relay directories, which can be equally long, the
first octet in which their texts differ.
-/

namespace ResilientMessenger.SigningPurposes

open ResilientMessenger.ByteCodec
open ResilientMessenger.Identity
open ResilientMessenger.Backend
open ResilientMessenger.Directory
open ResilientMessenger.DirectoryCodec

inductive Purpose where
  | deviceCertificate
  | invite
  | authChallenge
  | refreshProof
  | membershipOperation
  | relayDirectory
  deriving DecidableEq, Repr

/-- The byte strings that are signed for each purpose. -/
inductive SigningPayload : Purpose → Bytes → Prop
  | deviceCertificate (cert : DeviceCertificate) :
      SigningPayload .deviceCertificate (deviceCertificateSigningPayload cert)
  | invite (invite : SignedInvite) : SigningPayload .invite invite.signingPayload
  | authChallenge (challengeId : Id16) (challenge : Id32) :
      SigningPayload .authChallenge (authChallengePayload challengeId challenge)
  | refreshProof (refreshToken : Id32) :
      SigningPayload .refreshProof (refreshProofPayload refreshToken)
  | membershipOperation (correlationId groupId authorDeviceId targetDeviceId : Id16)
      (role : Int16) (remove : Bool) :
      SigningPayload .membershipOperation
        (membershipOperationPayload correlationId groupId authorDeviceId targetDeviceId
          role.toInt remove)
  | relayDirectory (directory : SignedRelayDirectory) (message : Bytes)
      (hmessage : directory.signingBytes = .ok message) :
      SigningPayload .relayDirectory message

/-! ## The lengths -/

theorem length_deviceCertificate (cert : DeviceCertificate) :
    (deviceCertificateSigningPayload cert).length = 56 := by
  simp [deviceCertificateSigningPayload]

theorem length_invite (invite : SignedInvite) : invite.signingPayload.length = 57 := by
  simp [SignedInvite.signingPayload, inviteSigningPayload]

theorem length_authChallenge (challengeId : Id16) (challenge : Id32) :
    (authChallengePayload challengeId challenge).length = 75 := by
  have hdomain : (ascii "resilient/auth-challenge/v1").length = 27 := by decide
  simp [authChallengePayload, hdomain]

theorem length_refreshProof (refreshToken : Id32) :
    (refreshProofPayload refreshToken).length = 58 := by
  have hdomain : (ascii "resilient/refresh-proof/v1").length = 26 := by decide
  simp [refreshProofPayload, hdomain]

theorem length_membershipDomain :
    (ascii "resilient/membership-operation/v1").length = 33 := by
  decide

theorem length_membershipOperation
    (correlationId groupId authorDeviceId targetDeviceId : Id16) (role : ℤ)
    (remove : Bool) :
    (membershipOperationPayload correlationId groupId authorDeviceId targetDeviceId role
      remove).length = 100 := by
  simp [membershipOperationPayload, length_membershipDomain]

theorem length_directoryDomain : (ascii "resilient/relay-directory/v1").length = 28 := by
  decide

theorem length_header (directory : SignedRelayDirectory) :
    (header directory).length = 54 := by
  simp [header, length_directoryDomain]

/-- An endpoint takes its id, its priority and two length words at least. -/
theorem length_endpoint {endpoint : RelayEndpoint} {bytes : Bytes}
    (hbytes : endpoint.signingBytes = .ok bytes) : 22 ≤ bytes.length := by
  obtain ⟨websocketUrl, httpsUrl, hwebsocket, hhttps, rfl⟩ :=
    signingBytes_eq_ok.mp hbytes
  obtain ⟨-, rfl⟩ := putString_eq_ok.mp hwebsocket
  obtain ⟨-, rfl⟩ := putString_eq_ok.mp hhttps
  simp only [List.length_append, length_toBigEndian, List.Vector.toList_length]
  omega

theorem length_endpoints {endpoints : List RelayEndpoint} {bytes : Bytes}
    (hbytes : SignedRelayDirectory.endpointBytes endpoints = .ok bytes) :
    22 * endpoints.length ≤ bytes.length := by
  induction endpoints generalizing bytes with
  | nil => exact Nat.zero_le _
  | cons endpoint endpoints ih =>
      obtain ⟨first, rest, hfirst, hrest, rfl⟩ := endpointBytes_cons.mp hbytes
      have hfirstLength := length_endpoint hfirst
      have hrestLength := ih hrest
      rw [List.length_append, List.length_cons]
      omega

/-- A directory is as long as its header or longer by one endpoint or more. -/
theorem length_relayDirectory {directory : SignedRelayDirectory} {message : Bytes}
    (hmessage : directory.signingBytes = .ok message) :
    message.length = 54 ∨ 76 ≤ message.length := by
  obtain ⟨-, bytes, hbytes, rfl⟩ := directory_signingBytes_eq_ok.mp hmessage
  have hlength := length_endpoints hbytes
  rw [List.length_append, length_header]
  cases hendpoints : (inSignedOrder directory).endpoints with
  | nil =>
      rw [hendpoints] at hbytes
      cases hbytes
      exact .inl rfl
  | cons endpoint endpoints =>
      rw [hendpoints, List.length_cons] at hlength
      omega

/-! ## No byte string has two purposes -/

/-- What the payloads of a purpose look like from outside.  Octet ten is the
first in which the texts of the two longest kinds differ. -/
def Purpose.Fits : Purpose → Bytes → Prop
  | .deviceCertificate, message => message.length = 56
  | .invite, message => message.length = 57
  | .authChallenge, message => message.length = 75
  | .refreshProof, message => message.length = 58
  | .membershipOperation, message => message.length = 100 ∧ message.getD 10 0 = 109
  | .relayDirectory, message =>
      (message.length = 54 ∨ 76 ≤ message.length) ∧ message.getD 10 0 = 114

theorem fits_unique {first second : Purpose} {message : Bytes}
    (hfirst : first.Fits message) (hsecond : second.Fits message) : first = second := by
  cases first <;> cases second <;> simp only [Purpose.Fits] at hfirst hsecond <;>
    first
      | rfl
      | omega
      | (rw [hfirst.2] at hsecond
         exact absurd hsecond.2 (by decide))

/-- An octet inside the leading text does not depend on what follows it. -/
theorem octet_of_append {domain rest : Bytes} {index : ℕ} {octet : UInt8}
    (hdomain : domain[index]? = some octet) : (domain ++ rest).getD index 0 = octet := by
  have hindex : index < domain.length := (List.getElem?_eq_some_iff.mp hdomain).1
  rw [List.getD_eq_getElem?_getD, List.getElem?_append_left hindex, hdomain]
  rfl

theorem SigningPayload.fits {purpose : Purpose} {message : Bytes}
    (hpayload : SigningPayload purpose message) : purpose.Fits message := by
  cases hpayload with
  | deviceCertificate cert => exact length_deviceCertificate cert
  | invite invite => exact length_invite invite
  | authChallenge challengeId challenge =>
      exact length_authChallenge challengeId challenge
  | refreshProof refreshToken => exact length_refreshProof refreshToken
  | membershipOperation correlationId groupId authorDeviceId targetDeviceId role remove =>
      refine ⟨length_membershipOperation _ _ _ _ _ _, ?_⟩
      simp only [membershipOperationPayload, List.append_assoc]
      exact octet_of_append (by decide)
  | relayDirectory directory message hmessage =>
      refine ⟨length_relayDirectory hmessage, ?_⟩
      obtain ⟨-, bytes, -, rfl⟩ := directory_signingBytes_eq_ok.mp hmessage
      simp only [header, List.append_assoc]
      exact octet_of_append (by decide)

/-! ## Equal bytes have equal fields -/

theorem deviceCertificateSigningPayload_inj {left right : DeviceCertificate}
    (heq : deviceCertificateSigningPayload left = deviceCertificateSigningPayload right) :
    left.deviceId = right.deviceId ∧ left.devicePublicKey = right.devicePublicKey ∧
      left.issuedAt = right.issuedAt := by
  obtain ⟨hfront, hissuedAt⟩ := List.append_inj heq (by simp)
  obtain ⟨hdeviceId, hkey⟩ := List.append_inj hfront (by simp)
  exact ⟨List.Vector.eq _ _ hdeviceId, List.Vector.eq _ _ hkey,
    uint64_bytes_inj.mp hissuedAt⟩

theorem authChallengePayload_inj {leftId rightId : Id16} {left right : Id32}
    (heq : authChallengePayload leftId left = authChallengePayload rightId right) :
    leftId = rightId ∧ left = right := by
  obtain ⟨hfront, hchallenge⟩ := List.append_inj heq (by simp)
  have hid := List.append_cancel_left hfront
  exact ⟨List.Vector.eq _ _ hid, List.Vector.eq _ _ hchallenge⟩

theorem refreshProofPayload_injective : Function.Injective refreshProofPayload := by
  intro left right heq
  exact List.Vector.eq _ _ (List.append_cancel_left heq)

/-- Roles are 16-bit integers, and their words are told apart by the bytes. -/
theorem role_bytes_inj {left right : Int16}
    (heq : toBigEndian 2 (unsigned 16 left.toInt) =
      toBigEndian 2 (unsigned 16 right.toInt)) : left = right := by
  have hword := (toBigEndian_inj (unsigned_lt 16 _) (unsigned_lt 16 _)).mp heq
  have hleft := left.toInt_lt
  have hleft' := left.le_toInt
  have hright := right.toInt_lt
  have hright' := right.le_toInt
  apply Int16.toInt_inj.mp
  simp only [unsigned] at hword
  omega

theorem membershipOperationPayload_inj
    {correlationId groupId authorDeviceId targetDeviceId : Id16} {role : Int16}
    {remove : Bool} {correlationId' groupId' authorDeviceId' targetDeviceId' : Id16}
    {role' : Int16} {remove' : Bool}
    (heq : membershipOperationPayload correlationId groupId authorDeviceId targetDeviceId
        role.toInt remove =
      membershipOperationPayload correlationId' groupId' authorDeviceId' targetDeviceId'
        role'.toInt remove') :
    correlationId = correlationId' ∧ groupId = groupId' ∧
      authorDeviceId = authorDeviceId' ∧ targetDeviceId = targetDeviceId' ∧
      role = role' ∧ remove = remove' := by
  -- fixed widths: the fields come off from the end
  obtain ⟨heq, hremove⟩ := List.append_inj heq (by simp)
  obtain ⟨heq, hrole⟩ := List.append_inj heq (by simp)
  obtain ⟨heq, htarget⟩ := List.append_inj heq (by simp)
  obtain ⟨heq, hauthor⟩ := List.append_inj heq (by simp)
  obtain ⟨heq, hgroup⟩ := List.append_inj heq (by simp)
  have hcorrelation := List.append_cancel_left heq
  have hremove : remove = remove' := by
    cases remove <;> cases remove' <;> simp_all
  exact ⟨List.Vector.eq _ _ hcorrelation, List.Vector.eq _ _ hgroup,
    List.Vector.eq _ _ hauthor, List.Vector.eq _ _ htarget, role_bytes_inj hrole, hremove⟩

/-- A byte string is signed for one purpose at most, and the bytes signed for a
challenge, a refresh proof, a membership operation or a certificate determine what
they are about. -/
theorem signing_payloads_separated :
    (∀ (first second : Purpose) (message : Bytes),
      SigningPayload first message → SigningPayload second message → first = second) ∧
    (∀ (leftId rightId : Id16) (left right : Id32),
      authChallengePayload leftId left = authChallengePayload rightId right →
        leftId = rightId ∧ left = right) ∧
    (∀ left right : Id32,
      refreshProofPayload left = refreshProofPayload right → left = right) ∧
    (∀ (correlationId groupId authorDeviceId targetDeviceId : Id16) (role : Int16)
      (remove : Bool) (correlationId' groupId' authorDeviceId' targetDeviceId' : Id16)
      (role' : Int16) (remove' : Bool),
      membershipOperationPayload correlationId groupId authorDeviceId targetDeviceId
          role.toInt remove =
        membershipOperationPayload correlationId' groupId' authorDeviceId'
          targetDeviceId' role'.toInt remove' →
        correlationId = correlationId' ∧ groupId = groupId' ∧
          authorDeviceId = authorDeviceId' ∧ targetDeviceId = targetDeviceId' ∧
          role = role' ∧ remove = remove') ∧
    ∀ left right : DeviceCertificate,
      deviceCertificateSigningPayload left = deviceCertificateSigningPayload right →
        left.deviceId = right.deviceId ∧ left.devicePublicKey = right.devicePublicKey ∧
          left.issuedAt = right.issuedAt := by
  refine ⟨?_, ?_, ?_, ?_, ?_⟩
  · intro first second message hfirst hsecond
    exact fits_unique hfirst.fits hsecond.fits
  · intro leftId rightId left right heq
    exact authChallengePayload_inj heq
  · intro left right heq
    exact refreshProofPayload_injective heq
  · intro correlationId groupId authorDeviceId targetDeviceId role remove correlationId'
      groupId' authorDeviceId' targetDeviceId' role' remove' heq
    exact membershipOperationPayload_inj heq
  · intro left right heq
    exact deviceCertificateSigningPayload_inj heq

/-- A directory without endpoints. -/
def emptyDirectory : SignedRelayDirectory :=
  { version := 1
    issuedAt := 2
    expiresAt := 3
    endpoints := []
    signature := FixedBytes.fill 64 0 }

theorem signing_payloads_separated_sample :
    SigningPayload .relayDirectory (header emptyDirectory) ∧
      ¬ SigningPayload .invite (header emptyDirectory) ∧
      SigningPayload .invite SampleInvite.unlimited.signingPayload ∧
      ¬ SigningPayload .deviceCertificate SampleInvite.unlimited.signingPayload := by
  have hdirectory : SigningPayload .relayDirectory (header emptyDirectory) :=
    .relayDirectory emptyDirectory _ (by decide +kernel)
  have hinvite : SigningPayload .invite SampleInvite.unlimited.signingPayload :=
    .invite SampleInvite.unlimited
  refine ⟨hdirectory, ?_, hinvite, ?_⟩
  · intro hother
    exact absurd (signing_payloads_separated.1 _ _ _ hdirectory hother) (by decide)
  · intro hother
    exact absurd (signing_payloads_separated.1 _ _ _ hinvite hother) (by decide)

end ResilientMessenger.SigningPurposes
