import ResilientMessenger.Core.ByteCodec

/-!
# Authenticated encryption as a parameter

An AEAD with 32-byte keys, 24-byte nonces and a 16-byte tag.  Implementations
live outside the programs verified here, so the two operations are a parameter
and the behaviour relied upon is the named law `Correct`: decryption recovers
the message under the encrypting key and fails under every other one.  `Ideal`
is what is assumed where tampering is at issue.
-/

namespace ResilientMessenger

open ResilientMessenger.ByteCodec

abbrev Key := FixedBytes 32
abbrev Nonce := FixedBytes 24

structure Aead where
  encrypt : Key → Nonce → (aad message : Bytes) → Option Bytes
  decrypt : Key → Nonce → (aad ciphertext : Bytes) → Option Bytes

namespace Aead

structure Correct (aead : Aead) : Prop where
  decrypt_encrypt : ∀ {key nonce aad message ciphertext},
    aead.encrypt key nonce aad message = some ciphertext →
      aead.decrypt key nonce aad ciphertext = some message
  wrong_key : ∀ {key other nonce aad message ciphertext},
    aead.encrypt key nonce aad message = some ciphertext → other ≠ key →
      aead.decrypt other nonce aad ciphertext = none
  tag_length : ∀ {key nonce aad message ciphertext},
    aead.encrypt key nonce aad message = some ciphertext →
      16 ≤ ciphertext.length

/-- A nonce in front of its ciphertext is split off again. -/
theorem split_sealed (nonce : Nonce) {ciphertext : Bytes}
    (htag : 16 ≤ ciphertext.length) :
    ¬(nonce.toList ++ ciphertext).length < 40 ∧
      FixedBytes.ofBytes? 24 ((nonce.toList ++ ciphertext).take 24) = some nonce ∧
      (nonce.toList ++ ciphertext).drop 24 = ciphertext := by
  have hnonce : nonce.toList.length = 24 := nonce.toList_length
  refine ⟨?_, ?_, List.drop_left' hnonce⟩
  · rw [List.length_append]
    omega
  · rw [List.take_left' hnonce, FixedBytes.ofBytes?_toList]

/-- A transparent cipher that tags the message with the whole key.  It hides
nothing, but it opens exactly under the sealing key, which is all the laws
ask. -/
def transparent : Aead where
  encrypt key _ _ message := some (key.toList ++ message)
  decrypt key _ _ ciphertext :=
    if ciphertext.take 32 = key.toList then some (ciphertext.drop 32) else none

theorem transparent_correct : transparent.Correct where
  decrypt_encrypt := by
    intro key _ _ message ciphertext hencrypt
    cases hencrypt
    simp [transparent]
  wrong_key := by
    intro key other _ _ message ciphertext hencrypt hother
    cases hencrypt
    have hne : key.toList ≠ other.toList := fun heq =>
      hother (List.Vector.eq other key heq.symm)
    simp [transparent, hne]
  tag_length := by
    intro key _ _ message ciphertext hencrypt
    cases hencrypt
    rw [List.length_append, key.toList_length]
    omega

/-! ## Ideal encryption -/

/-- Nothing opens that was not sealed under the same key, nonce and associated data. -/
structure Ideal (aead : Aead) : Prop extends aead.Correct where
  only_sealed : ∀ {key nonce aad message ciphertext},
    aead.decrypt key nonce aad ciphertext = some message →
      aead.encrypt key nonce aad message = some ciphertext
  sealed_once : ∀ {key nonce aad message other otherNonce otherAad otherMessage
      ciphertext},
    aead.encrypt key nonce aad message = some ciphertext →
      aead.encrypt other otherNonce otherAad otherMessage = some ciphertext →
        other = key ∧ otherNonce = nonce ∧ otherAad = aad

/-- The key, the nonce and the associated data, each of which can be read off again:
the length of the last stands in front of it in unary. -/
def label (key : Key) (nonce : Nonce) (aad : Bytes) : Bytes :=
  key.toList ++ (nonce.toList ++ (List.replicate aad.length 1 ++ 0 :: aad))

theorem replicate_injective {left right : ℕ} {first second : Bytes}
    (heq : List.replicate left (1 : UInt8) ++ 0 :: first =
      List.replicate right 1 ++ 0 :: second) : left = right ∧ first = second := by
  induction left generalizing right with
  | zero =>
      cases right with
      | zero => exact ⟨rfl, (List.cons.inj heq).2⟩
      | succ right => exact absurd (List.cons.inj heq).1 (by decide)
  | succ left ih =>
      cases right with
      | zero => exact absurd (List.cons.inj heq).1 (by decide)
      | succ right =>
          obtain ⟨hlength, hrest⟩ := ih (List.cons.inj heq).2
          exact ⟨congrArg Nat.succ hlength, hrest⟩

theorem label_injective {key other : Key} {nonce otherNonce : Nonce}
    {aad otherAad message otherMessage : Bytes}
    (heq : label key nonce aad ++ message =
      label other otherNonce otherAad ++ otherMessage) :
    other = key ∧ otherNonce = nonce ∧ otherAad = aad := by
  simp only [label, List.append_assoc, List.cons_append] at heq
  have hkeys : key.toList.length = other.toList.length :=
    key.toList_length.trans other.toList_length.symm
  obtain ⟨hkey, heq⟩ := List.append_inj heq hkeys
  have hnonces : nonce.toList.length = otherNonce.toList.length :=
    nonce.toList_length.trans otherNonce.toList_length.symm
  obtain ⟨hnonce, heq⟩ := List.append_inj heq hnonces
  obtain ⟨hlength, heq⟩ := replicate_injective heq
  obtain ⟨haad, -⟩ := List.append_inj heq hlength
  exact ⟨(List.Vector.eq key other hkey).symm,
    (List.Vector.eq nonce otherNonce hnonce).symm, haad.symm⟩

/-- A transparent cipher that tags the message with all it is bound to. -/
def labelled : Aead where
  encrypt key nonce aad message := some (label key nonce aad ++ message)
  decrypt key nonce aad ciphertext :=
    if ciphertext.take (label key nonce aad).length = label key nonce aad then
      some (ciphertext.drop (label key nonce aad).length)
    else none

theorem labelled_only_sealed {key : Key} {nonce : Nonce} {aad message ciphertext : Bytes}
    (hdecrypt : labelled.decrypt key nonce aad ciphertext = some message) :
    labelled.encrypt key nonce aad message = some ciphertext := by
  simp only [labelled] at hdecrypt ⊢
  split at hdecrypt
  case isTrue htag =>
    cases hdecrypt
    have hsplit := List.take_append_drop (label key nonce aad).length ciphertext
    rw [htag] at hsplit
    exact congrArg some hsplit
  case isFalse => cases hdecrypt

theorem labelled_ideal : labelled.Ideal where
  decrypt_encrypt := by
    intro key nonce aad message ciphertext hencrypt
    cases hencrypt
    simp [labelled]
  wrong_key := by
    intro key other nonce aad message ciphertext hencrypt hother
    cases hopened : labelled.decrypt other nonce aad ciphertext with
    | none => rfl
    | some opened =>
        have hsealed := labelled_only_sealed hopened
        rw [← hencrypt] at hsealed
        exact absurd (label_injective (Option.some.inj hsealed)).1.symm hother
  tag_length := by
    intro key nonce aad message ciphertext hencrypt
    cases hencrypt
    rw [List.length_append, label, List.length_append, key.toList_length]
    omega
  only_sealed := labelled_only_sealed
  sealed_once := by
    intro key nonce aad message other otherNonce otherAad otherMessage ciphertext
      hencrypt hagain
    rw [← hagain] at hencrypt
    exact label_injective (Option.some.inj hencrypt)

end Aead

end ResilientMessenger
