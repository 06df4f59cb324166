import ResilientMessenger.Core.ByteCodec

/-!
# Signatures as a parameter

Verification of detached 64-byte signatures under 32-byte public keys.  Not
every 32 bytes are a key, and an implementation refuses the others before it
looks at a signature, so the two questions are separate.
-/

namespace ResilientMessenger

open ResilientMessenger.ByteCodec

structure SignatureScheme where
  validKey : Id32 → Bool
  verify : Id32 → (message : Bytes) → (signature : FixedBytes 64) → Bool

namespace SignatureScheme

/-- The encoding of the neutral point of the curve. -/
def neutralKey : Id32 :=
  ⟨1 :: List.replicate 31 0, rfl⟩

/-- The neutral point followed by the scalar zero. -/
def neutralSignature : FixedBytes 64 :=
  ⟨1 :: List.replicate 63 0, rfl⟩

/-- The part of Ed25519 that can be evaluated without curve arithmetic: for
the neutral key the equation `s B = R + h A` reads `0 = 0` on the neutral
signature, whatever the message. -/
def neutral : SignatureScheme where
  validKey key := key = neutralKey
  verify key _ signature := key = neutralKey ∧ signature = neutralSignature

/-- The signature is good for this message only. -/
def Binds (scheme : SignatureScheme) (key : Id32) (message : Bytes)
    (signature : FixedBytes 64) : Prop :=
  ∀ other, scheme.verify key other signature = true → other = message

end SignatureScheme

/-- Signing with a secret key of 32 bytes. -/
structure Signer where
  verifyingKey : (secret : Id32) → Id32
  sign : (secret : Id32) → (message : Bytes) → FixedBytes 64

/-- Verification accepts what the matching secret key signs. -/
def Signer.AcceptedBy (signer : Signer) (scheme : SignatureScheme) : Prop :=
  ∀ secret message,
    scheme.validKey (signer.verifyingKey secret) = true ∧
      scheme.verify (signer.verifyingKey secret) message
        (signer.sign secret message) = true

end ResilientMessenger
