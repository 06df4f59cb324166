import ResilientMessenger.Core.Transaction
import ResilientMessenger.Identity.Payloads

/-!
# Invites and their QR payloads

An account root signs an invite over the version, the account id, the
fingerprint and the expiry.  The QR payload carries the root's public key, the
invite and one octet that says whether the expiry is present; it is written by
appending the fields and read at fixed offsets.

The expiry is optional in the invite but a plain word in the signed bytes, and
in the payload its eight octets stand there whether or not it is present.  The
results below say what is recovered from a payload, which payloads are the only
ones for their invite, and which expiries a signature tells apart.
-/

namespace ResilientMessenger.Identity

open ResilientMessenger.ByteCodec
open ResilientMessenger.Transaction

inductive IdentityError where
  | invalidInput
  | cryptographicFailure
  deriving DecidableEq, Repr

/-- The secret bytes of the root's signing key. -/
structure AccountRoot where
  secret : Id32

@[ext]
structure SignedInvite where
  version : UInt8
  accountId : Id32
  fingerprint : Id16
  expiresAt : Option UInt64
  signature : FixedBytes 64
  deriving DecidableEq

section Invites

variable (crypto : Crypto) (signer : Signer)

def AccountRoot.verifyingKey (root : AccountRoot) : Id32 :=
  signer.verifyingKey root.secret

def accountId (root : AccountRoot) : Id32 :=
  accountIdFromRootPublic crypto (root.verifyingKey signer)

/-- The first 16 octets of the public key. -/
def rootFingerprint (rootPublic : Id32) : Id16 :=
  ⟨rootPublic.toList.take 16, by simp⟩

/-- The signed bytes.  An absent expiry is written as zero. -/
def inviteSigningPayload (version : UInt8) (id : Id32) (fingerprint : Id16)
    (expiresAt : Option UInt64) : Bytes :=
  [version] ++ id.toList ++ fingerprint.toList ++
    toBigEndian 8 (expiresAt.getD 0).toNat

def SignedInvite.signingPayload (invite : SignedInvite) : Bytes :=
  inviteSigningPayload invite.version invite.accountId invite.fingerprint
    invite.expiresAt

def signInvite (root : AccountRoot) (expiresAt : Option UInt64) : SignedInvite :=
  let id := accountId crypto signer root
  let fp := rootFingerprint (root.verifyingKey signer)
  { version := 1
    accountId := id
    fingerprint := fp
    expiresAt
    signature := signer.sign root.secret (inviteSigningPayload 1 id fp expiresAt) }

def verifyInvite (rootPublic : Id32) (invite : SignedInvite) (time : UInt64) :
    Bool :=
  if invite.version ≠ 1 ∨ invite.expiresAt.any fun x => x < time then false
  else crypto.verifies rootPublic invite.signingPayload invite.signature

/-- `u8::from(expires_at.is_some())`. -/
def expiryFlag (expiresAt : Option UInt64) : UInt8 :=
  if expiresAt.isSome then 1 else 0

def encodeQrPayload (root : AccountRoot) (invite : SignedInvite) :
    Except IdentityError Bytes :=
  let rootPublic := root.verifyingKey signer
  if !verifyInvite crypto rootPublic invite 0 ∨
      accountId crypto signer root ≠ invite.accountId then
    .error .invalidInput
  else
    .ok (ascii "RMQ1" ++ rootPublic.toList ++ [invite.version] ++
      invite.accountId.toList ++ invite.fingerprint.toList ++
      [expiryFlag invite.expiresAt] ++
      toBigEndian 8 (invite.expiresAt.getD 0).toNat ++ invite.signature.toList)

/-- A slice as an array. -/
def tryInto (length : ℕ) (bytes : Bytes) :
    Except IdentityError (FixedBytes length) :=
  match FixedBytes.ofBytes? length bytes with
  | some array => .ok array
  | none => .error .invalidInput

/-- `(has_expiry == 1).then_some(expiry)`. -/
def expiryOf (hasExpiry : UInt8) (expiry : UInt64) : Option UInt64 :=
  if hasExpiry = 1 then some expiry else none

def decodeAndVerifyQrPayload (value : Bytes) (time : UInt64) :
    Except IdentityError (Id32 × SignedInvite) :=
  if value.length ≠ 158 ∨ slice value 0 4 ≠ ascii "RMQ1" then
    .error .invalidInput
  else do
    let rootPublic ← tryInto 32 (slice value 4 36)
    let hasExpiry := value.getD 85 0
    if 1 < hasExpiry then
      .error .invalidInput
    else do
      let expiry ← tryInto 8 (slice value 86 94)
      let accountId ← tryInto 32 (slice value 37 69)
      let fingerprint ← tryInto 16 (slice value 69 85)
      let signature ← tryInto 64 (slice value 94 158)
      let invite : SignedInvite :=
        { version := value.getD 36 0
          accountId
          fingerprint
          expiresAt := expiryOf hasExpiry (UInt64.ofNat (ofBigEndian expiry.toList))
          signature }
      if verifyInvite crypto rootPublic invite time ∧
          accountIdFromRootPublic crypto rootPublic = invite.accountId then
        .ok (rootPublic, invite)
      else .error .invalidInput

end Invites

section Specifications

variable {crypto : Crypto} {signer : Signer}

/-! ## The signed bytes -/

/-- Everything but the presence of the expiry is told apart by the signed
bytes. -/
theorem signingPayload_eq_iff {left right : SignedInvite} :
    left.signingPayload = right.signingPayload ↔
      left.version = right.version ∧ left.accountId = right.accountId ∧
        left.fingerprint = right.fingerprint ∧
        left.expiresAt.getD 0 = right.expiresAt.getD 0 := by
  unfold SignedInvite.signingPayload inviteSigningPayload
  constructor
  · intro heq
    obtain ⟨hfront, hexpiry⟩ := List.append_inj heq (by simp)
    obtain ⟨hfront, hfingerprint⟩ := List.append_inj hfront (by simp)
    obtain ⟨hversion, hid⟩ := List.append_inj hfront (by simp)
    exact ⟨List.singleton_inj.mp hversion, List.Vector.eq _ _ hid,
      List.Vector.eq _ _ hfingerprint, uint64_bytes_inj.mp hexpiry⟩
  · rintro ⟨hversion, hid, hfingerprint, hexpiry⟩
    rw [hversion, hid, hfingerprint, hexpiry]

theorem verifyInvite_eq_true {rootPublic : Id32} {invite : SignedInvite}
    {time : UInt64} :
    verifyInvite crypto rootPublic invite time = true ↔
      invite.version = 1 ∧ (∀ expiry, invite.expiresAt = some expiry → time ≤ expiry) ∧
        crypto.verifies rootPublic invite.signingPayload invite.signature = true := by
  unfold verifyInvite
  cases hexpiry : invite.expiresAt with
  | none => by_cases hversion : invite.version = 1 <;> simp [hversion]
  | some expiry =>
      by_cases hversion : invite.version = 1 <;>
        by_cases hexpired : expiry < time <;>
          simp_all [UInt64.not_lt]

/-! ## The layout of a QR payload -/

/-- The payload with a given flag and expiry word, which the invite's own expiry
need not match. -/
def qrLayout (rootPublic : Id32) (invite : SignedInvite) (hasExpiry : UInt8)
    (expiry : UInt64) : Bytes :=
  ascii "RMQ1" ++ (rootPublic.toList ++ (invite.version :: (invite.accountId.toList ++
    (invite.fingerprint.toList ++ (hasExpiry :: (toBigEndian 8 expiry.toNat ++
      invite.signature.toList))))))

theorem length_magic : (ascii "RMQ1").length = 4 := by
  decide

theorem length_qrLayout (rootPublic : Id32) (invite : SignedInvite)
    (hasExpiry : UInt8) (expiry : UInt64) :
    (qrLayout rootPublic invite hasExpiry expiry).length = 158 := by
  simp [qrLayout, length_magic]

/-- The offsets of the decoder are where the appended fields stand. -/
theorem eq_qrLayout_iff {value : Bytes} {rootPublic : Id32} {invite : SignedInvite}
    {hasExpiry : UInt8} {expiry : UInt64} (hlength : value.length = 158) :
    value = qrLayout rootPublic invite hasExpiry expiry ↔
      slice value 0 4 = ascii "RMQ1" ∧ slice value 4 36 = rootPublic.toList ∧
        value.getD 36 0 = invite.version ∧
        slice value 37 69 = invite.accountId.toList ∧
        slice value 69 85 = invite.fingerprint.toList ∧
        value.getD 85 0 = hasExpiry ∧
        slice value 86 94 = toBigEndian 8 expiry.toNat ∧
        slice value 94 158 = invite.signature.toList := by
  have hend : value.drop 158 = [] := List.drop_eq_nil_of_le hlength.le
  have hlast : value.drop 94 = invite.signature.toList ↔
      slice value 94 158 = invite.signature.toList := by
    rw [← List.append_nil invite.signature.toList,
      drop_eq_append_iff 158 (by simp), hend]
    simp
  calc value = qrLayout rootPublic invite hasExpiry expiry
      ↔ value.drop 0 = qrLayout rootPublic invite hasExpiry expiry := by
        rw [List.drop_zero]
    _ ↔ _ := by
        rw [qrLayout, drop_eq_append_iff 4 (by simp [length_magic]),
          drop_eq_append_iff 36 (by simp), drop_eq_cons_iff (by omega),
          drop_eq_append_iff 69 (by simp), drop_eq_append_iff 85 (by simp),
          drop_eq_cons_iff (by omega), drop_eq_append_iff 94 (by simp), hlast]

theorem qrLayout_inj {rootPublic : Id32} {invite : SignedInvite}
    {left right : UInt8} {leftExpiry rightExpiry : UInt64} :
    qrLayout rootPublic invite left leftExpiry =
        qrLayout rootPublic invite right rightExpiry ↔
      left = right ∧ leftExpiry = rightExpiry := by
  simp [qrLayout, uint64_bytes_inj]

/-! ## What the decoder accepts -/

theorem tryInto_eq_ok {length : ℕ} {bytes : Bytes} {array : FixedBytes length} :
    tryInto length bytes = .ok array ↔ bytes = array.toList := by
  rw [eq_comm (a := bytes), ← FixedBytes.ofBytes?_eq_some, tryInto]
  cases FixedBytes.ofBytes? length bytes <;> simp

/-- The eight octets of an expiry are the word they denote. -/
theorem expiry_bytes {expiry : FixedBytes 8} :
    toBigEndian 8 (UInt64.ofNat (ofBigEndian expiry.toList)).toNat = expiry.toList := by
  have hbound : ofBigEndian expiry.toList < 2 ^ 64 := by
    have hlt := ofBigEndian_lt expiry.toList
    rw [expiry.toList_length] at hlt
    exact hlt
  have hword := toBigEndian_ofBigEndian expiry.toList
  rw [expiry.toList_length] at hword
  rw [UInt64.toNat_ofNat_of_lt' hbound, hword]

/-- Reading an expiry back from its eight octets. -/
theorem expiry_word {expiry : FixedBytes 8} {word : UInt64}
    (hexpiry : expiry.toList = toBigEndian 8 word.toNat) :
    UInt64.ofNat (ofBigEndian expiry.toList) = word := by
  rw [← uint64_bytes_inj, expiry_bytes, hexpiry]

/-- The checks an accepted payload has passed. -/
theorem layout_of_decode_qr {value : Bytes} {time : UInt64} {rootPublic : Id32}
    {invite : SignedInvite}
    (hdecode : decodeAndVerifyQrPayload crypto value time = .ok (rootPublic, invite)) :
    verifyInvite crypto rootPublic invite time = true ∧
      accountIdFromRootPublic crypto rootPublic = invite.accountId ∧
      ∃ hasExpiry expiry, hasExpiry ≤ 1 ∧
        invite.expiresAt = expiryOf hasExpiry expiry ∧
        value = qrLayout rootPublic invite hasExpiry expiry := by
  unfold decodeAndVerifyQrPayload at hdecode
  split_ifs at hdecode with hframe
  obtain ⟨hlength, hmagic⟩ : value.length = 158 ∧ slice value 0 4 = ascii "RMQ1" := by
    simpa using hframe
  obtain ⟨root, hroot, hdecode⟩ := bind_eq_ok.mp hdecode
  dsimp only at hdecode
  split_ifs at hdecode with hflag
  obtain ⟨expiry, hexpiry, hdecode⟩ := bind_eq_ok.mp hdecode
  obtain ⟨id, hid, hdecode⟩ := bind_eq_ok.mp hdecode
  obtain ⟨fingerprint, hfingerprint, hdecode⟩ := bind_eq_ok.mp hdecode
  obtain ⟨signature, hsignature, hdecode⟩ := bind_eq_ok.mp hdecode
  split_ifs at hdecode with hverified
  cases hdecode
  refine ⟨hverified.1, hverified.2, value.getD 85 0,
    UInt64.ofNat (ofBigEndian expiry.toList), UInt8.not_lt.mp hflag, rfl, ?_⟩
  rw [eq_qrLayout_iff hlength, expiry_bytes]
  exact ⟨hmagic, tryInto_eq_ok.mp hroot, rfl, tryInto_eq_ok.mp hid,
    tryInto_eq_ok.mp hfingerprint, rfl, tryInto_eq_ok.mp hexpiry,
    tryInto_eq_ok.mp hsignature⟩

/-- A verified invite is read back from any layout whose flag agrees with its
expiry. -/
theorem decode_qrLayout {time : UInt64} {rootPublic : Id32} {invite : SignedInvite}
    {hasExpiry : UInt8} {expiry : UInt64}
    (hverified : verifyInvite crypto rootPublic invite time = true)
    (hid : accountIdFromRootPublic crypto rootPublic = invite.accountId)
    (hflag : hasExpiry ≤ 1) (hexpiresAt : invite.expiresAt = expiryOf hasExpiry expiry) :
    decodeAndVerifyQrPayload crypto (qrLayout rootPublic invite hasExpiry expiry) time =
      .ok (rootPublic, invite) := by
  have hlength := length_qrLayout rootPublic invite hasExpiry expiry
  obtain ⟨hmagic, hroot, hversion, haccount, hfingerprint, hhasExpiry, hexpiry,
    hsignature⟩ := (eq_qrLayout_iff hlength).mp rfl
  let word : FixedBytes 8 := ⟨toBigEndian 8 expiry.toNat, length_toBigEndian _ _⟩
  unfold decodeAndVerifyQrPayload
  rw [if_neg (by simp [hlength, hmagic])]
  refine bind_eq_ok.mpr ⟨rootPublic, tryInto_eq_ok.mpr hroot, ?_⟩
  dsimp only
  rw [hhasExpiry, if_neg (UInt8.not_lt.mpr hflag)]
  refine bind_eq_ok.mpr ⟨word, tryInto_eq_ok.mpr hexpiry, ?_⟩
  refine bind_eq_ok.mpr ⟨invite.accountId, tryInto_eq_ok.mpr haccount, ?_⟩
  refine bind_eq_ok.mpr ⟨invite.fingerprint, tryInto_eq_ok.mpr hfingerprint, ?_⟩
  refine bind_eq_ok.mpr ⟨invite.signature, tryInto_eq_ok.mpr hsignature, ?_⟩
  rw [hversion, expiry_word (rfl : word.toList = _), ← hexpiresAt]
  exact if_pos ⟨hverified, hid⟩

theorem encode_qr_eq_ok {root : AccountRoot} {invite : SignedInvite}
    {payload : Bytes} :
    encodeQrPayload crypto signer root invite = .ok payload ↔
      verifyInvite crypto (root.verifyingKey signer) invite 0 = true ∧
        accountId crypto signer root = invite.accountId ∧
        payload = qrLayout (root.verifyingKey signer) invite
          (expiryFlag invite.expiresAt) (invite.expiresAt.getD 0) := by
  unfold encodeQrPayload
  dsimp only
  split_ifs with hrefused
  · simp only [false_iff]
    rintro ⟨hverified, hid, -⟩
    simp [hverified, hid] at hrefused
  · obtain ⟨hverified, hid⟩ :
        verifyInvite crypto (root.verifyingKey signer) invite 0 = true ∧
          accountId crypto signer root = invite.accountId := by
      simpa using hrefused
    simp [hverified, hid, qrLayout, eq_comm]

/-- A root's own invite is good until it expires. -/
theorem verifyInvite_signInvite (haccepted : signer.AcceptedBy crypto.signatures)
    (root : AccountRoot) (expiresAt : Option UInt64) {time : UInt64}
    (htime : ∀ expiry, expiresAt = some expiry → time ≤ expiry) :
    verifyInvite crypto (root.verifyingKey signer)
      (signInvite crypto signer root expiresAt) time = true := by
  rw [verifyInvite_eq_true]
  obtain ⟨hkey, hsignature⟩ := haccepted root.secret
    (signInvite crypto signer root expiresAt).signingPayload
  refine ⟨rfl, htime, ?_⟩
  rw [Crypto.verifies, Bool.and_eq_true]
  exact ⟨hkey, hsignature⟩

/-- The flag and the word the encoder writes give the expiry back. -/
theorem expiryOf_written (expiresAt : Option UInt64) :
    expiryOf (expiryFlag expiresAt) (expiresAt.getD 0) = expiresAt := by
  cases expiresAt <;> rfl

theorem expiryFlag_le (expiresAt : Option UInt64) : expiryFlag expiresAt ≤ 1 := by
  unfold expiryFlag
  split <;> decide

end Specifications

/-! ## A signed invite that can be evaluated -/

namespace SampleInvite

/-- The root whose secret octets are all one. -/
def root : AccountRoot := ⟨FixedBytes.fill 32 1⟩

/-- Its Ed25519 public key. -/
def rootPublic : Id32 :=
  ⟨[138, 136, 227, 221, 116, 9, 241, 149, 253, 82, 219, 45, 60, 186, 93, 114,
    202, 103, 9, 191, 29, 148, 18, 27, 243, 116, 136, 1, 180, 15, 111, 92], rfl⟩

/-- The SHA-256 digest of the account id domain and the public key. -/
def rootAccountId : Id32 :=
  ⟨[180, 232, 75, 161, 68, 115, 69, 34, 204, 13, 224, 193, 167, 98, 253, 212,
    144, 151, 252, 187, 254, 170, 124, 21, 158, 189, 114, 202, 155, 164, 219,
    166], rfl⟩

/-- The bytes signed for an invite of this root without an expiry. -/
def message : Bytes :=
  inviteSigningPayload 1 rootAccountId (rootFingerprint rootPublic) none

/-- The Ed25519 signature of `message` under `root`. -/
def messageSignature : FixedBytes 64 :=
  ⟨[10, 152, 235, 72, 54, 250, 169, 71, 176, 74, 219, 112, 125, 82, 228, 188,
    151, 75, 210, 141, 164, 146, 140, 89, 236, 174, 86, 148, 235, 207, 209, 100,
    166, 37, 211, 109, 92, 209, 87, 198, 140, 238, 206, 127, 20, 196, 184, 234,
    35, 83, 234, 253, 234, 238, 226, 141, 3, 18, 117, 193, 106, 131, 82, 5], rfl⟩

/-- The values of the primitives on the inputs of this invite. -/
def signer : Signer where
  verifyingKey _ := rootPublic
  sign _ signed := if signed = message then messageSignature else FixedBytes.fill 64 0

def crypto : Crypto where
  sha256 input :=
    if input = accountIdDomain ++ rootPublic.toList then rootAccountId
    else FixedBytes.fill 32 0
  signatures :=
    { validKey := fun key => key = rootPublic
      verify := fun key signed signature =>
        key = rootPublic ∧ signature = signer.sign root.secret signed }

theorem accepted : signer.AcceptedBy crypto.signatures := by
  intro secret signed
  simp [crypto, signer]

/-- The signature of the sample is good for its own message only. -/
theorem binds : crypto.signatures.Binds rootPublic message messageSignature := by
  intro other hverify
  by_contra hother
  have hzero : messageSignature = FixedBytes.fill 64 0 := by
    simpa [crypto, signer, hother] using hverify
  exact absurd hzero (by decide)

end SampleInvite

/-! ## Round trip -/

/-- Whatever the root encodes is decoded to the root's key and the same invite
until the invite expires, and the root can encode every invite it signs. -/
theorem decode_encode_qr_payload (crypto : Crypto) (signer : Signer)
    (haccepted : signer.AcceptedBy crypto.signatures) (root : AccountRoot) :
    (∀ (invite : SignedInvite) (payload : Bytes) (time : UInt64),
      encodeQrPayload crypto signer root invite = .ok payload →
        (∀ expiry, invite.expiresAt = some expiry → time ≤ expiry) →
          decodeAndVerifyQrPayload crypto payload time =
            .ok (root.verifyingKey signer, invite)) ∧
    ∀ expiresAt : Option UInt64, ∃ payload,
      encodeQrPayload crypto signer root
        (signInvite crypto signer root expiresAt) = .ok payload := by
  constructor
  · intro invite payload time hencode htime
    obtain ⟨hverified, hid, hpayload⟩ := encode_qr_eq_ok.mp hencode
    obtain ⟨hversion, -, hsignature⟩ := verifyInvite_eq_true.mp hverified
    rw [hpayload]
    exact decode_qrLayout (verifyInvite_eq_true.mpr ⟨hversion, htime, hsignature⟩) hid
      (expiryFlag_le invite.expiresAt) (expiryOf_written invite.expiresAt).symm
  · intro expiresAt
    have hverified : verifyInvite crypto (root.verifyingKey signer)
        (signInvite crypto signer root expiresAt) 0 = true := by
      apply verifyInvite_signInvite haccepted
      intro expiry _
      exact UInt64.zero_le
    exact ⟨_, encode_qr_eq_ok.mpr ⟨hverified, rfl, rfl⟩⟩

/-- The sample never expires and is read back as it was signed. -/
theorem decode_encode_qr_payload_sample :
    SampleInvite.signer.AcceptedBy SampleInvite.crypto.signatures ∧
      ∃ payload,
        encodeQrPayload SampleInvite.crypto SampleInvite.signer SampleInvite.root
          (signInvite SampleInvite.crypto SampleInvite.signer SampleInvite.root none) =
            .ok payload ∧
        decodeAndVerifyQrPayload SampleInvite.crypto payload 7 =
          .ok (SampleInvite.rootPublic,
            signInvite SampleInvite.crypto SampleInvite.signer SampleInvite.root none) := by
  have hroundTrip := decode_encode_qr_payload SampleInvite.crypto SampleInvite.signer
    SampleInvite.accepted SampleInvite.root
  obtain ⟨payload, hencode⟩ := hroundTrip.2 none
  have hdecode := hroundTrip.1 _ payload 7 hencode (by intro expiry hexpiry; cases hexpiry)
  exact ⟨SampleInvite.accepted, payload, hencode, hdecode⟩

/-! ## Which payloads are the only ones for their invite -/

theorem qrLayout_flag (rootPublic : Id32) (invite : SignedInvite) (hasExpiry : UInt8)
    (expiry : UInt64) :
    (qrLayout rootPublic invite hasExpiry expiry).getD 85 0 = hasExpiry := by
  obtain ⟨-, -, -, -, -, hflag, -⟩ :=
    (eq_qrLayout_iff (length_qrLayout rootPublic invite hasExpiry expiry)).mp rfl
  exact hflag

/-- The flag and, under a flag of one, the word are part of the decoded invite.
Under a flag of zero the decoder drops the word. -/
theorem expiryOf_eq_some {hasExpiry : UInt8} {expiry found : UInt64} :
    expiryOf hasExpiry expiry = some found ↔ hasExpiry = 1 ∧ expiry = found := by
  unfold expiryOf
  split <;> simp_all

/-- An accepted payload is the only one for its root and invite exactly when its
flag octet is one: the eight octets behind a zero flag are not looked at. -/
theorem qr_payload_unique_iff (crypto : Crypto) (value : Bytes) (time : UInt64)
    (rootPublic : Id32) (invite : SignedInvite)
    (hdecode : decodeAndVerifyQrPayload crypto value time = .ok (rootPublic, invite)) :
    (∀ other, decodeAndVerifyQrPayload crypto other time = .ok (rootPublic, invite) →
      other = value) ↔ value.getD 85 0 = 1 := by
  obtain ⟨hverified, hid, hasExpiry, expiry, hflag, hexpiresAt, rfl⟩ :=
    layout_of_decode_qr hdecode
  rw [qrLayout_flag]
  constructor
  · intro hunique
    by_contra hzero
    -- the same invite with another word behind the zero flag
    have hother : decodeAndVerifyQrPayload crypto
        (qrLayout rootPublic invite hasExpiry (expiry + 1)) time =
          .ok (rootPublic, invite) := by
      apply decode_qrLayout hverified hid hflag
      rw [hexpiresAt, expiryOf, expiryOf, if_neg hzero, if_neg hzero]
    have hword := (qrLayout_inj.mp (hunique _ hother)).2
    simp at hword
  · rintro rfl other hother
    obtain ⟨-, -, otherFlag, otherExpiry, -, hotherExpiresAt, rfl⟩ :=
      layout_of_decode_qr hother
    have hsome : expiryOf otherFlag otherExpiry = some expiry :=
      hotherExpiresAt.symm.trans hexpiresAt
    obtain ⟨rfl, rfl⟩ := expiryOf_eq_some.mp hsome
    rfl

namespace SampleInvite

/-- The sample's invite without an expiry. -/
def unlimited : SignedInvite := signInvite crypto signer root none

/-- Its payload. -/
def payload : Bytes := qrLayout rootPublic unlimited 0 0

/-- Its payload with the last octet of the unused word changed. -/
def alteredPayload : Bytes := payload.set 93 1

end SampleInvite

theorem qr_payload_unique_iff_sample :
    decodeAndVerifyQrPayload SampleInvite.crypto SampleInvite.payload 0 =
        .ok (SampleInvite.rootPublic, SampleInvite.unlimited) ∧
      ¬ ∀ other, decodeAndVerifyQrPayload SampleInvite.crypto other 0 =
        .ok (SampleInvite.rootPublic, SampleInvite.unlimited) →
          other = SampleInvite.payload := by
  have hdecode : decodeAndVerifyQrPayload SampleInvite.crypto SampleInvite.payload 0 =
      .ok (SampleInvite.rootPublic, SampleInvite.unlimited) := by
    decide +kernel
  refine ⟨hdecode, ?_⟩
  rw [qr_payload_unique_iff _ _ _ _ _ hdecode]
  decide +kernel

/-- Two payloads that differ in their last expiry octet decode to one invite. -/
theorem qr_payload_not_canonical :
    decodeAndVerifyQrPayload SampleInvite.crypto SampleInvite.payload 0 =
        .ok (SampleInvite.rootPublic, SampleInvite.unlimited) ∧
      decodeAndVerifyQrPayload SampleInvite.crypto SampleInvite.alteredPayload 0 =
        .ok (SampleInvite.rootPublic, SampleInvite.unlimited) ∧
      SampleInvite.payload ≠ SampleInvite.alteredPayload := by
  decide +kernel

/-! ## Which expiries a signature tells apart -/

/-- An absent expiry and an expiry of zero are one word; all others differ. -/
theorem getD_zero_eq_iff {left right : Option UInt64} :
    left.getD 0 = right.getD 0 ↔
      left = right ∨ (left = none ∧ right = some 0) ∨
        (left = some 0 ∧ right = none) := by
  cases left <;> cases right <;> simp [eq_comm]

/-- Two invites with the same signed bytes agree in their signed fields, unless one
has no expiry and the other expires at zero. -/
theorem signed_fields_agree_iff (left right : SignedInvite) :
    (left.signingPayload = right.signingPayload →
      left.version = right.version ∧ left.accountId = right.accountId ∧
        left.fingerprint = right.fingerprint ∧ left.expiresAt = right.expiresAt) ↔
    ¬ (left.version = right.version ∧ left.accountId = right.accountId ∧
        left.fingerprint = right.fingerprint ∧
        ((left.expiresAt = none ∧ right.expiresAt = some 0) ∨
          (left.expiresAt = some 0 ∧ right.expiresAt = none))) := by
  rw [signingPayload_eq_iff, getD_zero_eq_iff]
  constructor
  · rintro hagree ⟨hversion, hid, hfingerprint, hconfused⟩
    obtain ⟨-, -, -, hexpiry⟩ :=
      hagree ⟨hversion, hid, hfingerprint, .inr hconfused⟩
    rcases hconfused with ⟨hleft, hright⟩ | ⟨hleft, hright⟩
    · simp [hleft, hright] at hexpiry
    · simp [hleft, hright] at hexpiry
  · rintro hapart ⟨hversion, hid, hfingerprint, hexpiry⟩
    have hexpiry := hexpiry.resolve_right fun hconfused =>
      hapart ⟨hversion, hid, hfingerprint, hconfused⟩
    exact ⟨hversion, hid, hfingerprint, hexpiry⟩

/-- An accepted invite under a signature that binds its message has the expiry
word of that message. -/
theorem expiry_of_verified {crypto : Crypto} {rootPublic : Id32}
    {signed altered : SignedInvite} {time : UInt64}
    (hbinds : crypto.signatures.Binds rootPublic signed.signingPayload signed.signature)
    (hsignature : altered.signature = signed.signature)
    (hverified : verifyInvite crypto rootPublic altered time = true) :
    altered.expiresAt.getD 0 = signed.expiresAt.getD 0 := by
  obtain ⟨-, -, hverifies⟩ := verifyInvite_eq_true.mp hverified
  rw [Crypto.verifies, Bool.and_eq_true, hsignature] at hverifies
  have hpayload := hbinds _ hverifies.2
  exact (signingPayload_eq_iff.mp hpayload).2.2.2

/-- An invite that expired at zero is accepted for ever once its expiry is left
out. -/
theorem verifyInvite_of_dropped_expiry {crypto : Crypto} {signer : Signer}
    (haccepted : signer.AcceptedBy crypto.signatures) (root : AccountRoot)
    (time : UInt64) :
    verifyInvite crypto (root.verifyingKey signer)
      { signInvite crypto signer root (some 0) with expiresAt := none } time = true :=
  verifyInvite_signInvite haccepted root none (by simp)

/-- The signed bytes determine the signed fields, except that they do not tell an
absent expiry from an expiry of zero.  So a signature made for a later expiry
than zero is of no use after it, and a signature made for expiry zero is good for
ever in an invite without an expiry. -/
theorem invite_signature_binds_expiry_iff (crypto : Crypto) (signer : Signer)
    (haccepted : signer.AcceptedBy crypto.signatures) :
    (∀ left right : SignedInvite,
      (left.signingPayload = right.signingPayload →
        left.version = right.version ∧ left.accountId = right.accountId ∧
          left.fingerprint = right.fingerprint ∧ left.expiresAt = right.expiresAt) ↔
      ¬ (left.version = right.version ∧ left.accountId = right.accountId ∧
          left.fingerprint = right.fingerprint ∧
          ((left.expiresAt = none ∧ right.expiresAt = some 0) ∨
            (left.expiresAt = some 0 ∧ right.expiresAt = none)))) ∧
    ∀ (root : AccountRoot) (expiry : UInt64),
      crypto.signatures.Binds (root.verifyingKey signer)
        (signInvite crypto signer root (some expiry)).signingPayload
        (signInvite crypto signer root (some expiry)).signature →
      ((∀ (altered : SignedInvite) (time : UInt64),
        altered.signature = (signInvite crypto signer root (some expiry)).signature →
          expiry < time →
            verifyInvite crypto (root.verifyingKey signer) altered time = false) ↔
        expiry ≠ 0) := by
  refine ⟨fun left right => ?_, fun root expiry hbinds => ?_⟩
  · exact signed_fields_agree_iff left right
  · constructor
    · rintro hrejected rfl
      have hfalse := hrejected
        { signInvite crypto signer root (some 0) with expiresAt := none } 1 rfl (by decide)
      rw [verifyInvite_of_dropped_expiry haccepted root 1] at hfalse
      cases hfalse
    · intro hexpiry altered time hsignature hlate
      by_contra hverified
      rw [Bool.not_eq_false] at hverified
      have hword := expiry_of_verified hbinds hsignature hverified
      have hexpiresAt : altered.expiresAt = some expiry := by
        rcases getD_zero_eq_iff.mp hword with hsame | ⟨-, hzero⟩ | ⟨-, habsent⟩
        · exact hsame
        · exact absurd (Option.some.inj hzero) hexpiry
        · cases habsent
      obtain ⟨-, htime, -⟩ := verifyInvite_eq_true.mp hverified
      exact UInt64.not_lt.mpr (htime expiry hexpiresAt) hlate

namespace SampleInvite

/-- The sample's invite that expires at zero. -/
def expired : SignedInvite := signInvite crypto signer root (some 0)

/-- The same invite with the expiry left out. -/
def alteredInvite : SignedInvite := { expired with expiresAt := none }

end SampleInvite

/-- The sample's signature binds its message, and because its expiry is zero an
altered invite is accepted at a later time. -/
theorem invite_signature_binds_expiry_iff_sample :
    SampleInvite.signer.AcceptedBy SampleInvite.crypto.signatures ∧
      SampleInvite.crypto.signatures.Binds SampleInvite.rootPublic
        SampleInvite.expired.signingPayload SampleInvite.expired.signature ∧
      ¬ ∀ (altered : SignedInvite) (time : UInt64),
        altered.signature = SampleInvite.expired.signature → 0 < time →
          verifyInvite SampleInvite.crypto SampleInvite.rootPublic altered time = false := by
  have hbinds : SampleInvite.crypto.signatures.Binds SampleInvite.rootPublic
      SampleInvite.expired.signingPayload SampleInvite.expired.signature :=
    SampleInvite.binds
  refine ⟨SampleInvite.accepted, hbinds, ?_⟩
  intro hrejected
  have hbound := invite_signature_binds_expiry_iff SampleInvite.crypto SampleInvite.signer
    SampleInvite.accepted
  exact (hbound.2 SampleInvite.root 0 hbinds).mp hrejected rfl

/-- Two invites with the same signed bytes and different expiries, of which the
first has expired at time one and the second is accepted there. -/
theorem invite_expiry_not_bound :
    SampleInvite.expired.signingPayload = SampleInvite.alteredInvite.signingPayload ∧
      SampleInvite.expired.expiresAt ≠ SampleInvite.alteredInvite.expiresAt ∧
      verifyInvite SampleInvite.crypto SampleInvite.rootPublic SampleInvite.expired 1 =
        false ∧
      verifyInvite SampleInvite.crypto SampleInvite.rootPublic
        SampleInvite.alteredInvite 1 = true := by
  decide +kernel

end ResilientMessenger.Identity
