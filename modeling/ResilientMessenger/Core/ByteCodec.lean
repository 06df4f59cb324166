import Mathlib.Data.Vector.Basic
import Mathlib.Tactic.Ring
import Mathlib.Tactic.Linarith

/-!
# Byte strings and big-endian words

Byte strings are lists of octets and fixed-length arrays are lists that carry
their length.  Network integers are written most significant byte first at a
declared width; this module proves that reading such a word back recovers its
value and that every byte string of the declared width is the encoding of the
number it denotes.
-/

namespace ResilientMessenger.ByteCodec

abbrev Bytes := List UInt8

/-- The octets of an ASCII literal. -/
def ascii (text : String) : Bytes :=
  text.toList.map fun letter => UInt8.ofNat letter.toNat

/-- The octets of a text. -/
def utf8 (text : String) : Bytes := text.toUTF8.data.toList

/-- The text these octets encode, if they are valid. -/
def ofUtf8? (bytes : Bytes) : Option String := String.fromUTF8? ⟨bytes.toArray⟩

theorem ofUtf8?_eq_some {bytes : Bytes} {text : String} :
    ofUtf8? bytes = some text ↔ utf8 text = bytes := by
  unfold ofUtf8? String.fromUTF8? utf8
  constructor
  · intro hsome
    split at hsome
    · cases hsome
      simp [String.fromUTF8]
    · cases hsome
  · rintro rfl
    have hvalid : (text.toUTF8).IsValidUTF8 := text.isValidUTF8
    simp only [Array.toArray_toList]
    rw [dif_pos hvalid]
    rfl

/-- An array of exactly `length` octets. -/
abbrev FixedBytes (length : ℕ) := List.Vector UInt8 length

abbrev Id16 := FixedBytes 16
abbrev Id32 := FixedBytes 32

namespace FixedBytes

/-- The array whose octets are all equal, the literal `[value; length]`. -/
def fill (length : ℕ) (value : UInt8) : FixedBytes length :=
  List.Vector.replicate length value

/-- Conversion of a slice into an array, which fails on any other length. -/
def ofBytes? (length : ℕ) (bytes : Bytes) : Option (FixedBytes length) :=
  if h : bytes.length = length then some ⟨bytes, h⟩ else none

theorem ofBytes?_eq_some {length : ℕ} {bytes : Bytes}
    {array : FixedBytes length} :
    ofBytes? length bytes = some array ↔ array.toList = bytes := by
  unfold ofBytes?
  constructor
  · intro heq
    split at heq
    · cases heq
      rfl
    · cases heq
  · intro heq
    subst heq
    rw [dif_pos array.toList_length]
    rfl

@[simp]
theorem ofBytes?_toList {length : ℕ} (array : FixedBytes length) :
    ofBytes? length array.toList = some array :=
  ofBytes?_eq_some.mpr rfl

end FixedBytes

/-- The low `8 * width` bits of `value`, most significant byte first. -/
def toBigEndian : ℕ → ℕ → Bytes
  | 0, _ => []
  | width + 1, value =>
      UInt8.ofNat (value / 256 ^ width) :: toBigEndian width value

/-- The number denoted by a byte string read most significant byte first. -/
def ofBigEndian (bytes : Bytes) : ℕ :=
  bytes.foldl (fun value byte => value * 256 + byte.toNat) 0

@[simp]
theorem length_toBigEndian (width value : ℕ) :
    (toBigEndian width value).length = width := by
  induction width with
  | zero => rfl
  | succ width ih => simp [toBigEndian, ih]

private theorem foldl_bigEndian (bytes : Bytes) (start : ℕ) :
    bytes.foldl (fun value byte => value * 256 + byte.toNat) start =
      start * 256 ^ bytes.length + ofBigEndian bytes := by
  induction bytes generalizing start with
  | nil => simp [ofBigEndian]
  | cons byte bytes ih =>
      simp only [ofBigEndian, List.foldl_cons, List.length_cons]
      rw [ih, ih (0 * 256 + byte.toNat)]
      ring

theorem ofBigEndian_cons (byte : UInt8) (bytes : Bytes) :
    ofBigEndian (byte :: bytes) =
      byte.toNat * 256 ^ bytes.length + ofBigEndian bytes := by
  rw [ofBigEndian, List.foldl_cons, foldl_bigEndian]
  simp

theorem ofBigEndian_lt (bytes : Bytes) :
    ofBigEndian bytes < 256 ^ bytes.length := by
  induction bytes with
  | nil => simp [ofBigEndian]
  | cons byte bytes ih =>
      rw [ofBigEndian_cons, List.length_cons, pow_succ]
      have hbyte : byte.toNat + 1 ≤ 256 := byte.toNat_lt
      have hscaled : (byte.toNat + 1) * 256 ^ bytes.length ≤
          256 * 256 ^ bytes.length := Nat.mul_le_mul_right _ hbyte
      linarith

/-- Only the low `8 * width` bits survive a write, so reading back reduces
the value modulo the width. -/
theorem ofBigEndian_toBigEndian (width value : ℕ) :
    ofBigEndian (toBigEndian width value) = value % 256 ^ width := by
  induction width with
  | zero => simp [toBigEndian, ofBigEndian, Nat.mod_one]
  | succ width ih =>
      rw [toBigEndian, ofBigEndian_cons, ih, length_toBigEndian]
      have hhead : (UInt8.ofNat (value / 256 ^ width)).toNat =
          value / 256 ^ width % 256 := by simp
      rw [hhead, pow_succ, Nat.mod_mul, Nat.add_comm, Nat.mul_comm]

theorem ofBigEndian_toBigEndian_of_lt {width value : ℕ}
    (hvalue : value < 256 ^ width) :
    ofBigEndian (toBigEndian width value) = value := by
  rw [ofBigEndian_toBigEndian, Nat.mod_eq_of_lt hvalue]

private theorem toBigEndian_add (width high low : ℕ) :
    toBigEndian width (high * 256 ^ width + low) = toBigEndian width low := by
  induction width generalizing high with
  | zero => rfl
  | succ width ih =>
      have hsplit : high * 256 ^ (width + 1) + low =
          high * 256 * 256 ^ width + low := by ring
      rw [hsplit, toBigEndian, toBigEndian, ih]
      have hpow : 0 < 256 ^ width := by positivity
      have hdiv : (high * 256 * 256 ^ width + low) / 256 ^ width =
          high * 256 + low / 256 ^ width := by
        rw [Nat.add_comm, Nat.add_mul_div_right _ _ hpow, Nat.add_comm]
      congr 1
      apply UInt8.toNat_inj.mp
      rw [hdiv]
      simp

/-- Every byte string is the big-endian word of the number it denotes. -/
theorem toBigEndian_ofBigEndian (bytes : Bytes) :
    toBigEndian bytes.length (ofBigEndian bytes) = bytes := by
  induction bytes with
  | nil => rfl
  | cons byte bytes ih =>
      rw [ofBigEndian_cons, List.length_cons, toBigEndian, toBigEndian_add, ih]
      congr 1
      apply UInt8.toNat_inj.mp
      have hlow : ofBigEndian bytes / 256 ^ bytes.length = 0 :=
        Nat.div_eq_of_lt (ofBigEndian_lt bytes)
      have hpow : 0 < 256 ^ bytes.length := by positivity
      rw [Nat.add_comm, Nat.add_mul_div_right _ _ hpow, hlow]
      simp

/-- The integer a word of `bits` bits denotes in two's complement. -/
def signed (bits word : ℕ) : ℤ :=
  if word < 2 ^ (bits - 1) then word else (word : ℤ) - 2 ^ bits

/-- The word of `bits` bits an integer is stored in. -/
def unsigned (bits : ℕ) (value : ℤ) : ℕ := (value % 2 ^ bits).toNat

theorem unsigned_lt (bits : ℕ) (value : ℤ) : unsigned bits value < 2 ^ bits := by
  unfold unsigned
  have hpos : (0 : ℤ) < 2 ^ bits := by positivity
  have hlt := Int.emod_lt_of_pos value hpos
  have hnonneg := Int.emod_nonneg value hpos.ne'
  zify
  rw [Int.toNat_of_nonneg hnonneg]
  exact hlt

/-- Words of one width are told apart by their bytes. -/
theorem toBigEndian_inj {width left right : ℕ} (hleft : left < 256 ^ width)
    (hright : right < 256 ^ width) :
    toBigEndian width left = toBigEndian width right ↔ left = right := by
  constructor
  · intro heq
    calc left
        = ofBigEndian (toBigEndian width left) :=
          (ofBigEndian_toBigEndian_of_lt hleft).symm
      _ = ofBigEndian (toBigEndian width right) := congrArg ofBigEndian heq
      _ = right := ofBigEndian_toBigEndian_of_lt hright
  · rintro rfl
    rfl

theorem uint64_bytes_inj {left right : UInt64} :
    toBigEndian 8 left.toNat = toBigEndian 8 right.toNat ↔ left = right := by
  rw [toBigEndian_inj left.toNat_lt right.toNat_lt, UInt64.toNat_inj]

/-! ## Fields at fixed offsets -/

/-- The octets from `start` up to `stop`. -/
def slice (bytes : Bytes) (start stop : ℕ) : Bytes :=
  (bytes.drop start).take (stop - start)

/-- The field at an offset is what stands first behind that offset. -/
theorem drop_eq_append_iff {bytes field rest : Bytes} {start : ℕ} (stop : ℕ)
    (hfield : start + field.length = stop) :
    bytes.drop start = field ++ rest ↔
      slice bytes start stop = field ∧ bytes.drop stop = rest := by
  subst hfield
  rw [slice, Nat.add_sub_cancel_left, ← List.drop_drop]
  constructor
  · intro heq
    simp [heq]
  · rintro ⟨hslice, hrest⟩
    calc bytes.drop start
        = (bytes.drop start).take field.length ++
            (bytes.drop start).drop field.length := (List.take_append_drop _ _).symm
      _ = field ++ rest := by rw [hslice, hrest]

theorem drop_eq_cons_iff {bytes rest : Bytes} {octet : UInt8} {index : ℕ}
    (hindex : index < bytes.length) :
    bytes.drop index = octet :: rest ↔
      bytes.getD index 0 = octet ∧ bytes.drop (index + 1) = rest := by
  have hoctet : bytes.getD index 0 = bytes[index] := by
    simp [List.getD, hindex]
  rw [List.drop_eq_getElem_cons hindex, List.cons.injEq, hoctet]

end ResilientMessenger.ByteCodec
