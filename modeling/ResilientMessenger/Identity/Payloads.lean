import ResilientMessenger.Core.Signature

/-!
# Identities and signed payloads

Account ids are hashes of root keys, and every signature is over a byte string
that starts with the purpose of the signature, certificates and invites apart.
Usernames are compared in a canonical form, for which the Unicode tables are a
parameter.
-/

namespace ResilientMessenger.Identity

open ResilientMessenger.ByteCodec

/-- The primitives that live outside the repository. -/
structure Crypto where
  sha256 : Bytes → Id32
  signatures : SignatureScheme

structure DeviceCertificate where
  deviceId : Id16
  devicePublicKey : Id32
  issuedAt : UInt64
  signature : FixedBytes 64
  deriving DecidableEq

def accountIdDomain : Bytes := ascii "resilient/account-id/v1"

def accountIdFromRootPublic (crypto : Crypto) (rootPublic : Id32) : Id32 :=
  crypto.sha256 (accountIdDomain ++ rootPublic.toList)

def deviceCertificateSigningPayload (cert : DeviceCertificate) : Bytes :=
  cert.deviceId.toList ++ cert.devicePublicKey.toList ++
    toBigEndian 8 cert.issuedAt.toNat

/-- A key that does not decode verifies nothing. -/
def Crypto.verifies (crypto : Crypto) (publicKey : Id32) (message : Bytes)
    (signature : FixedBytes 64) : Bool :=
  crypto.signatures.validKey publicKey &&
    crypto.signatures.verify publicKey message signature

def verifyDeviceCertificate (crypto : Crypto) (rootPublic : Id32)
    (cert : DeviceCertificate) : Bool :=
  crypto.verifies rootPublic (deviceCertificateSigningPayload cert)
    cert.signature

def authChallengePayload (challengeId : Id16) (challenge : Id32) : Bytes :=
  ascii "resilient/auth-challenge/v1" ++ challengeId.toList ++ challenge.toList

def refreshProofPayload (refreshToken : Id32) : Bytes :=
  ascii "resilient/refresh-proof/v1" ++ refreshToken.toList

/-! ## Usernames -/

/-- The Unicode tables: compatibility composition of a text and the lower case of
a character. -/
structure Unicode where
  nfkc : String → List Char
  toLowercase : Char → List Char

/-- `char::is_control`. -/
def isControl (letter : Char) : Bool :=
  letter.toNat < 32 || (127 ≤ letter.toNat && letter.toNat < 160)

def usernameLetter (letter : Char) : Bool :=
  !isControl letter && (letter.isAlphanum || letter = '_' || letter = '.')

/-- The canonical form of a username, for names of 3 to 32 permitted characters. -/
def canonicalUsername (unicode : Unicode) (input : String) : Option String :=
  let letters := (unicode.nfkc input).flatMap unicode.toLowercase
  if 3 ≤ letters.length ∧ letters.length ≤ 32 ∧ letters.all usernameLetter then
    some (String.ofList letters)
  else none

/-- What the tables say about ASCII. -/
def Unicode.ascii : Unicode where
  nfkc := String.toList
  toLowercase letter := [letter.toLower]

end ResilientMessenger.Identity
