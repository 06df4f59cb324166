import ResilientMessenger.Core.ByteReader

/-!
# The restricted canonical CBOR profile

Wire frames use definite-length arrays, unsigned integers and byte strings
only.  Every item starts with a head: a major type in the top three bits and an
argument in the shortest of four widths.  The encoder picks the width from the
value; the decoder reads the width it is given and rejects an argument that
would have fitted a shorter one.  `head_eq_ok` proves that the two agree at
every width boundary, which is what makes accepted frames unique.
-/

namespace ResilientMessenger.Cbor

open ResilientMessenger.ByteCodec
open ResilientMessenger.ByteReader

inductive Error where
  | malformed
  | truncated
  | tooLarge
  | nonCanonical
  | unsupportedVersion
  | unknownFrameType
  | unknownApplicationType
  | trailingBytes
  | fieldOutOfRange
  deriving DecidableEq, Repr

abbrev Decoder := Reader Error

namespace Encoder

/-- `Encoder::major`.  The last branch keeps only the low 32 bits, as the
source's `n as u32` does. -/
def major (m : UInt8) (n : ℕ) : Bytes :=
  if n < 24 then
    [(m <<< 5) ||| UInt8.ofNat n]
  else if n ≤ 255 then
    [(m <<< 5) ||| 24, UInt8.ofNat n]
  else if n ≤ 65535 then
    ((m <<< 5) ||| 25) :: toBigEndian 2 n
  else
    ((m <<< 5) ||| 26) :: toBigEndian 4 n

def array (n : ℕ) : Bytes := major 4 n

def uint (n : ℕ) : Bytes := major 0 n

def bytes (b : Bytes) : Bytes := major 2 b.length ++ b

end Encoder

namespace Decoder

/-- The argument that follows an initial byte with additional information
`a`. -/
def argument (a : UInt8) : Decoder ℕ :=
  if a ≤ 23 then pure a.toNat
  else if a = 24 then word .truncated 1
  else if a = 25 then word .truncated 2
  else if a = 26 then word .truncated 4
  else throw .nonCanonical

/-- The argument `n` was written wider than it had to be. -/
def overlong (a : UInt8) (n : ℕ) : Bool :=
  (a = 24 ∧ n < 24) ∨ (a = 25 ∧ n ≤ 255) ∨ (a = 26 ∧ n ≤ 65535)

def head : Decoder (UInt8 × ℕ) := do
  let x ← byte .truncated
  let m := x >>> 5
  let a := x &&& 31
  let n ← argument a
  ensure (!overlong a n) .nonCanonical
  pure (m, n)

def uint : Decoder ℕ := do
  let (m, n) ← head
  ensure (m = 0) .malformed
  pure n

def arrayLen (n : ℕ) : Decoder Unit := do
  let (m, x) ← head
  ensure (m = 4 ∧ x = n) .malformed

def bytes : Decoder Bytes := do
  let (m, n) ← head
  ensure (m = 2) .malformed
  take .truncated n

def id : Decoder (FixedBytes 16) := do
  let b ← bytes
  match FixedBytes.ofBytes? 16 b with
  | some x => pure x
  | none => throw .fieldOutOfRange

end Decoder

/-! ## The initial byte -/

/-- What holds of the 256 indices holds of every octet. -/
private theorem uint8_forall {P : UInt8 → Prop}
    (hall : ∀ index : Fin 256, P ⟨⟨index⟩⟩) (x : UInt8) : P x := by
  cases x with
  | ofBitVec bits =>
      cases bits with
      | ofFin index => exact hall index

private theorem initialByte_split (x : UInt8) :
    ((x >>> 5) <<< 5) ||| (x &&& 31) = x := by
  revert x
  refine uint8_forall ?_
  decide +kernel

private theorem shiftRight_five_lt (x : UInt8) : x >>> 5 < 8 := by
  revert x
  refine uint8_forall ?_
  decide +kernel

private theorem initialByte_join {m a : UInt8} (hm : m < 8) (ha : a < 32) :
    ((m <<< 5) ||| a) >>> 5 = m ∧ ((m <<< 5) ||| a) &&& 31 = a := by
  have hall : ∀ (m : Fin 8) (a : Fin 32),
      ((UInt8.ofNat m <<< 5) ||| UInt8.ofNat a) >>> 5 = UInt8.ofNat m ∧
        ((UInt8.ofNat m <<< 5) ||| UInt8.ofNat a) &&& 31 = UInt8.ofNat a := by
    decide +kernel
  simpa using hall ⟨m.toNat, hm⟩ ⟨a.toNat, ha⟩

/-! ## The head reads back exactly what the encoder writes -/

/-- Additional information and argument bytes chosen for `n`. -/
private def shortest (n : ℕ) : UInt8 × Bytes :=
  if n < 24 then (UInt8.ofNat n, [])
  else if n ≤ 255 then (24, toBigEndian 1 n)
  else if n ≤ 65535 then (25, toBigEndian 2 n)
  else (26, toBigEndian 4 n)

private theorem major_eq (m : UInt8) (n : ℕ) :
    Encoder.major m n = ((m <<< 5) ||| (shortest n).1) :: (shortest n).2 := by
  unfold Encoder.major shortest
  split_ifs <;> simp [toBigEndian]

private theorem shortest_lt (n : ℕ) : (shortest n).1 < 32 := by
  unfold shortest
  split_ifs with hsmall
  · change (UInt8.ofNat n).toNat < 32
    rw [UInt8.toNat_ofNat']
    omega
  · change (24 : UInt8) < 32
    decide
  · change (25 : UInt8) < 32
    decide
  · change (26 : UInt8) < 32
    decide

/-- Reading an argument and passing the overlong test is the same as finding
the shortest form. -/
private theorem argument_eq_ok {a : UInt8} {n : ℕ} {input unread : Bytes} :
    (Decoder.argument a input = .ok (n, unread) ∧
        (!Decoder.overlong a n) = true) ↔
      n < 2 ^ 32 ∧ a = (shortest n).1 ∧ input = (shortest n).2 ++ unread := by
  unfold Decoder.argument
  by_cases hsmall : a ≤ 23
  · have htoNat : a.toNat ≤ 23 := hsmall
    have hne : a ≠ 24 ∧ a ≠ 25 ∧ a ≠ 26 := by
      refine ⟨?_, ?_, ?_⟩ <;> rintro rfl <;> exact absurd hsmall (by decide)
    simp only [hsmall, if_true, pure_eq_ok, Prod.mk.injEq, Decoder.overlong, hne]
    constructor
    · rintro ⟨⟨rfl, rfl⟩, -⟩
      refine ⟨by omega, ?_, ?_⟩ <;> simp [shortest, show a.toNat < 24 by omega]
    · rintro ⟨-, ha, hinput⟩
      have hn : n < 24 := by
        by_contra hlarge
        unfold shortest at ha
        split_ifs at ha <;> simp_all
      simp only [shortest, hn, if_true, List.nil_append] at ha hinput
      subst ha hinput
      simp
      omega
  · have hlarge : ∀ n < 24, a ≠ UInt8.ofNat n := by
      rintro n hn rfl
      apply hsmall
      change (UInt8.ofNat n).toNat ≤ 23
      rw [UInt8.toNat_ofNat']
      omega
    unfold shortest
    split_ifs <;> simp_all [Decoder.overlong] <;> grind

/-- The decoder accepts a head exactly when it is the encoder's head for the
returned pair. -/
theorem head_eq_ok {m : UInt8} {n : ℕ} {input unread : Bytes} :
    Decoder.head input = .ok ((m, n), unread) ↔
      m < 8 ∧ n < 2 ^ 32 ∧ input = Encoder.major m n ++ unread := by
  simp only [Decoder.head, bind_eq_ok, byte_eq_ok, ensure_eq_ok, pure_eq_ok,
    Prod.mk.injEq]
  constructor
  · rintro ⟨x, tail, rfl, n', _, hargument, _, _, ⟨hcanonical, rfl⟩,
      ⟨rfl, rfl⟩, rfl⟩
    obtain ⟨hn, ha, rfl⟩ := argument_eq_ok.mp ⟨hargument, hcanonical⟩
    refine ⟨shiftRight_five_lt x, hn, ?_⟩
    rw [major_eq, ← ha, initialByte_split, List.cons_append]
  · rintro ⟨hm, hn, rfl⟩
    obtain ⟨hmajor, hinfo⟩ := initialByte_join hm (shortest_lt n)
    obtain ⟨hargument, hcanonical⟩ := argument_eq_ok.mpr
      ⟨hn, rfl, (rfl : (shortest n).2 ++ unread = _)⟩
    refine ⟨(m <<< 5) ||| (shortest n).1, (shortest n).2 ++ unread, ?_, n,
      unread, ?_, (), unread, ⟨?_, rfl⟩, ⟨hmajor.symm, rfl⟩, rfl⟩
    · rw [major_eq, List.cons_append]
    · rw [hinfo]
      exact hargument
    · rw [hinfo]
      exact hcanonical

@[simp]
theorem uint_eq_ok {n : ℕ} {input unread : Bytes} :
    Decoder.uint input = .ok (n, unread) ↔
      n < 2 ^ 32 ∧ input = Encoder.uint n ++ unread := by
  simp only [Decoder.uint, bind_eq_ok, Prod.exists, head_eq_ok, ensure_eq_ok,
    pure_eq_ok, decide_eq_true_eq, Prod.mk.injEq, Encoder.uint]
  constructor
  · rintro ⟨m, n', _, ⟨-, hn, rfl⟩, _, _, ⟨rfl, rfl⟩, rfl, rfl⟩
    exact ⟨hn, rfl⟩
  · rintro ⟨hn, rfl⟩
    exact ⟨0, n, unread, ⟨by decide, hn, rfl⟩, (), unread, ⟨rfl, rfl⟩,
      rfl, rfl⟩

@[simp]
theorem arrayLen_eq_ok {n : ℕ} {input unread : Bytes} {done : Unit} :
    Decoder.arrayLen n input = .ok (done, unread) ↔
      n < 2 ^ 32 ∧ input = Encoder.array n ++ unread := by
  simp only [Decoder.arrayLen, bind_eq_ok, Prod.exists, head_eq_ok,
    ensure_eq_ok, decide_eq_true_eq, Encoder.array]
  constructor
  · rintro ⟨m, n', _, ⟨-, hn, rfl⟩, ⟨rfl, rfl⟩, rfl⟩
    exact ⟨hn, rfl⟩
  · rintro ⟨hn, rfl⟩
    exact ⟨4, n, unread, ⟨by decide, hn, rfl⟩, ⟨rfl, rfl⟩, rfl⟩

@[simp]
theorem bytes_eq_ok {value input unread : Bytes} :
    Decoder.bytes input = .ok (value, unread) ↔
      value.length < 2 ^ 32 ∧ input = Encoder.bytes value ++ unread := by
  simp only [Decoder.bytes, bind_eq_ok, Prod.exists, head_eq_ok, ensure_eq_ok,
    decide_eq_true_eq, take_eq_ok, Encoder.bytes]
  constructor
  · rintro ⟨m, n, _, ⟨-, hn, rfl⟩, _, _, ⟨rfl, rfl⟩, rfl, rfl⟩
    exact ⟨hn, by simp⟩
  · rintro ⟨hn, rfl⟩
    exact ⟨2, value.length, value ++ unread, ⟨by decide, hn, by simp⟩, (), _,
      ⟨rfl, rfl⟩, rfl, rfl⟩

@[simp]
theorem id_eq_ok {value : FixedBytes 16} {input unread : Bytes} :
    Decoder.id input = .ok (value, unread) ↔
      input = Encoder.bytes value.toList ++ unread := by
  simp only [Decoder.id, bind_eq_ok, bytes_eq_ok]
  constructor
  · rintro ⟨b, _, ⟨-, rfl⟩, hmatch⟩
    cases hvalue : FixedBytes.ofBytes? 16 b with
    | none => simp [hvalue] at hmatch
    | some found =>
        simp only [hvalue, pure_eq_ok, Prod.mk.injEq] at hmatch
        obtain ⟨rfl, rfl⟩ := hmatch
        rw [FixedBytes.ofBytes?_eq_some.mp hvalue]
  · rintro rfl
    exact ⟨value.toList, unread, ⟨by simp, rfl⟩, by simp⟩

end ResilientMessenger.Cbor
