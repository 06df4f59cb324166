import ResilientMessenger.Identity.Invites

/-!
# New accounts and their devices

An account is a root key, and a device belongs to it by a certificate that the root
key signs.  The secrets, the id of the device and the time of the certificate are
drawn by the client and are parameters here.
-/

namespace ResilientMessenger.Identity

open ResilientMessenger.ByteCodec

/-- The secret bytes of the device's signing key. -/
structure DeviceKey where
  secret : Id32

section Accounts

variable (crypto : Crypto) (signer : Signer)

def DeviceKey.verifyingKey (device : DeviceKey) : Id32 :=
  signer.verifyingKey device.secret

def fingerprintDomain : Bytes := ascii "resilient/device-certificate-fingerprint/v1"

def deviceCertificateFingerprint (cert : DeviceCertificate) : Id16 :=
  (crypto.sha256 (fingerprintDomain ++ deviceCertificateSigningPayload cert ++
    cert.signature.toList)).take 16

end Accounts

variable {crypto : Crypto} {signer : Signer}

end ResilientMessenger.Identity
