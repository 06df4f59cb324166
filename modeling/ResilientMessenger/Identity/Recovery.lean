import ResilientMessenger.Core.Aead
import ResilientMessenger.Identity.Invites

/-!
# Recovery phrases

The root key of an account is encrypted under a key that is derived from a
phrase of 24 words, and the encrypted root is found again under an identifier
that is a hash of the same phrase.  Word lists, the derivation and the cipher
live outside the repository.  `restore_created_iff` says which phrases open a
package and that what they restore is the root itself.
-/

namespace ResilientMessenger.Identity

open ResilientMessenger.ByteCodec
open ResilientMessenger.Transaction

/-- Phrases of 24 words of the English list. -/
structure Phrases where
  Mnemonic : Type
  generate : (random : Id32) → Mnemonic
  text : Mnemonic → String
  parse : String → Option Mnemonic
  entropy : Mnemonic → Bytes

/-- A generated phrase is read back from its words. -/
def Phrases.ReadBack (phrases : Phrases) : Prop :=
  ∀ random, phrases.parse (phrases.text (phrases.generate random)) =
    some (phrases.generate random)

/-- What recovery takes from other crates, `hkdf` being HKDF-SHA256 with 32 octets
of output. -/
structure RecoveryTools where
  phrases : Phrases
  hkdf : (salt input info : Bytes) → Option Key
  aead : Aead

structure RecoveryPackage (tools : RecoveryTools) where
  phrase : tools.phrases.Mnemonic
  recoveryIdentifier : Id32
  encryptedRoot : Bytes

section Recovery

variable (crypto : Crypto) (tools : RecoveryTools)

def recoveryIdentifier (phrase : tools.phrases.Mnemonic) : Id32 :=
  crypto.sha256 (ascii "resilient/recovery-id/v1" ++ tools.phrases.entropy phrase)

def recoveryKey (phrase : tools.phrases.Mnemonic) : Except IdentityError Key :=
  match tools.hkdf (ascii "resilient/recovery/salt/v1") (tools.phrases.entropy phrase)
    (ascii "recovery-blob") with
  | some key => .ok key
  | none => .error .cryptographicFailure

def encryptRecoveryBlob (nonce : Nonce) (phrase : tools.phrases.Mnemonic)
    (plaintext : Bytes) : Except IdentityError Bytes := do
  let key ← recoveryKey tools phrase
  match tools.aead.encrypt key nonce [] plaintext with
  | some ciphertext => .ok (nonce.toList ++ ciphertext)
  | none => .error .cryptographicFailure

/-- A blob is too short exactly when it does not start with a nonce. -/
def decryptRecoveryBlob (phrase : tools.phrases.Mnemonic) (blob : Bytes) :
    Except IdentityError Bytes := do
  let nonce ← tryInto 24 (blob.take 24)
  let key ← recoveryKey tools phrase
  match tools.aead.decrypt key nonce [] (blob.drop 24) with
  | some plaintext => .ok plaintext
  | none => .error .cryptographicFailure

/-- The phrase and the nonce are drawn from the system. -/
def createRecoveryPackage (random : Id32) (nonce : Nonce) (root : AccountRoot) :
    Except IdentityError (RecoveryPackage tools) := do
  let phrase := tools.phrases.generate random
  let encryptedRoot ← encryptRecoveryBlob tools nonce phrase root.secret.toList
  .ok { phrase, recoveryIdentifier := recoveryIdentifier crypto tools phrase, encryptedRoot }

def restoreAccountRoot (phrase : String) (encryptedRoot : Bytes) :
    Except IdentityError AccountRoot :=
  match tools.phrases.parse phrase with
  | none => .error .invalidInput
  | some phrase => do
      let bytes ← decryptRecoveryBlob tools phrase encryptedRoot
      let secret ← tryInto 32 bytes
      .ok ⟨secret⟩

end Recovery

section Restoring

variable {crypto : Crypto} {tools : RecoveryTools}

theorem encryptRecoveryBlob_eq_ok {nonce : Nonce} {phrase : tools.phrases.Mnemonic}
    {plaintext blob : Bytes} :
    encryptRecoveryBlob tools nonce phrase plaintext = .ok blob ↔
      ∃ key ciphertext, recoveryKey tools phrase = .ok key ∧
        tools.aead.encrypt key nonce [] plaintext = some ciphertext ∧
        blob = nonce.toList ++ ciphertext := by
  unfold encryptRecoveryBlob
  simp only [bind_eq_ok]
  constructor
  · rintro ⟨key, hkey, hsealed⟩
    split at hsealed
    case h_1 ciphertext hencrypt =>
      cases hsealed
      exact ⟨key, ciphertext, hkey, hencrypt, rfl⟩
    case h_2 => cases hsealed
  · rintro ⟨key, ciphertext, hkey, hencrypt, rfl⟩
    refine ⟨key, hkey, ?_⟩
    rw [hencrypt]

/-- What was encrypted for one phrase opens for those with the same key, and to
nothing else. -/
theorem decrypt_encrypted_iff (hcorrect : tools.aead.Correct) {nonce : Nonce}
    {phrase other : tools.phrases.Mnemonic} {plaintext blob found : Bytes}
    (hencrypted : encryptRecoveryBlob tools nonce phrase plaintext = .ok blob) :
    decryptRecoveryBlob tools other blob = .ok found ↔
      recoveryKey tools other = recoveryKey tools phrase ∧ found = plaintext := by
  obtain ⟨key, ciphertext, hkey, hencrypt, rfl⟩ :=
    encryptRecoveryBlob_eq_ok.mp hencrypted
  have hnonce : nonce.toList.length = 24 := nonce.toList_length
  have hread : tryInto 24 ((nonce.toList ++ ciphertext).take 24) = .ok nonce := by
    rw [List.take_left' hnonce]
    exact tryInto_eq_ok.mpr rfl
  unfold decryptRecoveryBlob
  rw [hread, List.drop_left' hnonce, hkey]
  simp only [bind_eq_ok]
  constructor
  · rintro ⟨_, ⟨⟩, used, hused, hopened⟩
    by_cases hsame : used = key
    · subst hsame
      rw [hcorrect.decrypt_encrypt hencrypt] at hopened
      cases hopened
      exact ⟨hused, rfl⟩
    · rw [hcorrect.wrong_key hencrypt hsame] at hopened
      cases hopened
  · rintro ⟨hused, rfl⟩
    refine ⟨nonce, rfl, key, hused, ?_⟩
    rw [hcorrect.decrypt_encrypt hencrypt]

theorem restore_encrypted_iff (hcorrect : tools.aead.Correct) {nonce : Nonce}
    {phrase : tools.phrases.Mnemonic} {root found : AccountRoot} {blob : Bytes}
    {words : String}
    (hencrypted : encryptRecoveryBlob tools nonce phrase root.secret.toList = .ok blob) :
    restoreAccountRoot tools words blob = .ok found ↔
      found = root ∧ ∃ read, tools.phrases.parse words = some read ∧
        recoveryKey tools read = recoveryKey tools phrase := by
  unfold restoreAccountRoot
  cases hparse : tools.phrases.parse words with
  | none => simp
  | some read =>
      simp only [bind_eq_ok, decrypt_encrypted_iff hcorrect hencrypted, tryInto_eq_ok,
        Except.ok.injEq, Option.some.injEq, exists_eq_left']
      constructor
      · rintro ⟨_, ⟨hkey, rfl⟩, secret, hsecret, rfl⟩
        have hsame : secret = root.secret := List.Vector.eq _ _ hsecret.symm
        exact ⟨by rw [hsame], hkey⟩
      · rintro ⟨rfl, hkey⟩
        exact ⟨_, ⟨hkey, rfl⟩, found.secret, rfl, rfl⟩

theorem createRecoveryPackage_eq_ok {random : Id32} {nonce : Nonce} {root : AccountRoot}
    {package : RecoveryPackage tools}
    (hcreated : createRecoveryPackage crypto tools random nonce root = .ok package) :
    package.phrase = tools.phrases.generate random ∧
      package.recoveryIdentifier = recoveryIdentifier crypto tools package.phrase ∧
      encryptRecoveryBlob tools nonce package.phrase root.secret.toList =
        .ok package.encryptedRoot := by
  obtain ⟨encryptedRoot, hencrypted, hpackage⟩ := bind_eq_ok.mp hcreated
  cases hpackage
  exact ⟨rfl, rfl, hencrypted⟩

end Restoring

/-- The words restore from a package exactly when they are a phrase that the same
key is derived from, and they then restore the root the package was made of. -/
theorem restore_created_iff (crypto : Crypto) (tools : RecoveryTools)
    (hcorrect : tools.aead.Correct) (random : Id32) (nonce : Nonce)
    (root : AccountRoot) (package : RecoveryPackage tools)
    (hcreated : createRecoveryPackage crypto tools random nonce root = .ok package)
    (words : String) (found : AccountRoot) :
    restoreAccountRoot tools words package.encryptedRoot = .ok found ↔
      found = root ∧ ∃ phrase, tools.phrases.parse words = some phrase ∧
        recoveryKey tools phrase = recoveryKey tools package.phrase := by
  obtain ⟨-, -, hencrypted⟩ := createRecoveryPackage_eq_ok hcreated
  exact restore_encrypted_iff hcorrect hencrypted

/-! ## A package that can be evaluated -/

namespace SampleRecovery

def zeros : Id32 := FixedBytes.fill 32 0

/-- The phrase whose entropy is zero. -/
def zeroWords : String :=
  "abandon abandon abandon abandon abandon abandon abandon abandon abandon abandon " ++
  "abandon abandon abandon abandon abandon abandon abandon abandon abandon abandon " ++
  "abandon abandon abandon art"

/-- The phrase whose entropy is zero, alone. -/
def phrases : Phrases where
  Mnemonic := Id32
  generate _ := zeros
  text _ := zeroWords
  parse words := if words = zeroWords then some zeros else none
  entropy phrase := phrase.toList

theorem phrases_readBack : phrases.ReadBack := by
  intro random
  simp [phrases]

/-- The key that HKDF derives from the entropy zero. -/
def zeroKey : Key :=
  ⟨[117, 234, 166, 122, 93, 119, 120, 212, 30, 254, 26, 230, 44, 253, 167, 2, 203, 143,
    120, 48, 222, 102, 88, 123, 125, 156, 164, 175, 105, 130, 0, 166], rfl⟩

/-- The SHA-256 digest that identifies the phrase whose entropy is zero. -/
def zeroIdentifier : Id32 :=
  ⟨[121, 80, 144, 129, 25, 196, 48, 139, 171, 204, 4, 189, 198, 128, 91, 141, 29, 213,
    121, 166, 34, 106, 124, 23, 108, 60, 14, 13, 250, 58, 247, 43], rfl⟩

def tools : RecoveryTools where
  phrases
  hkdf _ _ _ := some zeroKey
  aead := Aead.transparent

def crypto : Crypto where
  sha256 _ := zeroIdentifier
  signatures := SignatureScheme.neutral

def package : RecoveryPackage tools where
  phrase := zeros
  recoveryIdentifier := zeroIdentifier
  encryptedRoot := List.replicate 24 0 ++ (zeroKey.toList ++ List.replicate 32 1)

end SampleRecovery

theorem restore_sample_package :
    createRecoveryPackage SampleRecovery.crypto SampleRecovery.tools SampleRecovery.zeros
        (FixedBytes.fill 24 0) SampleInvite.root = .ok SampleRecovery.package ∧
      restoreAccountRoot SampleRecovery.tools SampleRecovery.zeroWords
        SampleRecovery.package.encryptedRoot = .ok SampleInvite.root := by
  have hcreated : createRecoveryPackage SampleRecovery.crypto SampleRecovery.tools
      SampleRecovery.zeros (FixedBytes.fill 24 0) SampleInvite.root =
        .ok SampleRecovery.package := rfl
  refine ⟨hcreated, (restore_created_iff SampleRecovery.crypto SampleRecovery.tools
    Aead.transparent_correct SampleRecovery.zeros (FixedBytes.fill 24 0) SampleInvite.root
    SampleRecovery.package hcreated SampleRecovery.zeroWords SampleInvite.root).mpr ?_⟩
  exact ⟨rfl, SampleRecovery.zeros, SampleRecovery.phrases_readBack SampleRecovery.zeros,
    rfl⟩

end ResilientMessenger.Identity
