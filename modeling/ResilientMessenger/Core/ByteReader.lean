import ResilientMessenger.Core.ByteCodec

/-!
# Strict sequential readers

A reader consumes a byte string from the front and fails with an error of its
own type.  A cursor into a borrowed slice and the unread suffix of that slice
carry the same information, so a reader's state is the unread suffix.

The library's rules are equivalences: what it means for a composed reader to
succeed is stated in terms of its parts, in both directions.  A decoder built
from such readers therefore comes with its inverse: rewriting its success with
these rules leaves the statement that the input is the encoding.
-/

namespace ResilientMessenger.ByteReader

open ResilientMessenger.ByteCodec

variable {ε α β : Type}

abbrev Reader (ε : Type) := StateT Bytes (Except ε)

/-- Continue only when `condition` holds. -/
def ensure (condition : Bool) (failure : ε) : Reader ε Unit :=
  fun input => if condition then .ok ((), input) else .error failure

/-- A computation on values already read. -/
def fromResult (result : Except ε α) : Reader ε α :=
  fun input => result.map fun value => (value, input)

/-- The next `count` octets, or `short` when fewer remain. -/
def take (short : ε) (count : ℕ) : Reader ε Bytes := fun input =>
  if count ≤ input.length then .ok (input.take count, input.drop count)
  else .error short

/-- The next octet, or `short` at the end of the input. -/
def byte (short : ε) : Reader ε UInt8
  | [] => .error short
  | octet :: rest => .ok (octet, rest)

/-- The next `length` octets as an array. -/
def array (short : ε) (length : ℕ) : Reader ε (FixedBytes length) := do
  let bytes ← take short length
  match FixedBytes.ofBytes? length bytes with
  | some value => pure value
  | none => throw short

/-- A big-endian unsigned word of `width` octets. -/
def word (short : ε) (width : ℕ) : Reader ε ℕ := do
  let bytes ← take short width
  pure (ofBigEndian bytes)

/-- Everything that is left. -/
def rest : Reader ε Bytes := fun input => .ok (input, [])

/-- Succeed only when nothing is left. -/
def finish (trailing : ε) : Reader ε Unit := fun input =>
  if input = [] then .ok ((), []) else .error trailing

/-- The value of a reader on a complete input, its unread suffix forgotten. -/
def decodeWith (reader : Reader ε α) (input : Bytes) : Except ε α :=
  (reader input).map Prod.fst

/-! ## Success of composed readers -/

@[simp]
theorem bind_eq_ok {reader : Reader ε α} {next : α → Reader ε β}
    {input : Bytes} {output : β × Bytes} :
    (reader >>= next) input = .ok output ↔
      ∃ value unread, reader input = .ok (value, unread) ∧
        next value unread = .ok output := by
  simp only [bind, StateT.bind, Except.bind]
  cases reader input with
  | error failure => simp
  | ok result => simp [Prod.ext_iff]

@[simp]
theorem pure_eq_ok {value : α} {input : Bytes} {output : α × Bytes} :
    (pure value : Reader ε α) input = .ok output ↔ output = (value, input) := by
  change Except.ok (value, input) = .ok output ↔ _
  simp [eq_comm]

@[simp]
theorem throw_eq_ok {failure : ε} {input : Bytes} {output : α × Bytes} :
    (throw failure : Reader ε α) input = .ok output ↔ False := by
  change Except.error failure = .ok output ↔ _
  simp

@[simp]
theorem ensure_eq_ok {condition : Bool} {failure : ε} {input unread : Bytes}
    {done : Unit} :
    ensure condition failure input = .ok (done, unread) ↔
      condition = true ∧ input = unread := by
  unfold ensure
  cases condition <;> simp

@[simp]
theorem fromResult_eq_ok {result : Except ε α} {input unread : Bytes}
    {value : α} :
    fromResult result input = .ok (value, unread) ↔
      result = .ok value ∧ input = unread := by
  cases result <;> simp [fromResult, Except.map]

@[simp]
theorem take_eq_ok {short : ε} {count : ℕ} {input value unread : Bytes} :
    take short count input = .ok (value, unread) ↔
      value.length = count ∧ input = value ++ unread := by
  unfold take
  constructor
  · intro heq
    split at heq
    case isTrue hcount =>
      simp only [Except.ok.injEq, Prod.mk.injEq] at heq
      obtain ⟨rfl, rfl⟩ := heq
      simp [hcount]
    case isFalse => cases heq
  · rintro ⟨rfl, rfl⟩
    simp

@[simp]
theorem byte_eq_ok {short : ε} {input unread : Bytes} {octet : UInt8} :
    byte short input = .ok (octet, unread) ↔ input = octet :: unread := by
  cases input <;> simp [byte]

@[simp]
theorem array_eq_ok {short : ε} {length : ℕ} {input unread : Bytes}
    {value : FixedBytes length} :
    array short length input = .ok (value, unread) ↔
      input = value.toList ++ unread := by
  simp only [array, bind_eq_ok, take_eq_ok]
  constructor
  · rintro ⟨bytes, suffix, ⟨-, rfl⟩, hmatch⟩
    cases hvalue : FixedBytes.ofBytes? length bytes with
    | none => simp [hvalue] at hmatch
    | some found =>
        simp only [hvalue, pure_eq_ok, Prod.mk.injEq] at hmatch
        obtain ⟨rfl, rfl⟩ := hmatch
        rw [FixedBytes.ofBytes?_eq_some.mp hvalue]
  · rintro rfl
    exact ⟨value.toList, unread, ⟨value.toList_length, rfl⟩, by simp⟩

@[simp]
theorem word_eq_ok {short : ε} {width value : ℕ} {input unread : Bytes} :
    word short width input = .ok (value, unread) ↔
      value < 256 ^ width ∧ input = toBigEndian width value ++ unread := by
  simp only [word, bind_eq_ok, take_eq_ok, pure_eq_ok, Prod.mk.injEq]
  constructor
  · rintro ⟨bytes, suffix, ⟨rfl, rfl⟩, rfl, rfl⟩
    exact ⟨ofBigEndian_lt bytes, by rw [toBigEndian_ofBigEndian]⟩
  · rintro ⟨hvalue, rfl⟩
    exact ⟨toBigEndian width value, unread, ⟨length_toBigEndian width value, rfl⟩,
      (ofBigEndian_toBigEndian_of_lt hvalue).symm, rfl⟩

@[simp]
theorem finish_eq_ok {trailing : ε} {input unread : Bytes} {done : Unit} :
    finish trailing input = .ok (done, unread) ↔ input = [] ∧ unread = [] := by
  unfold finish
  split <;> simp_all [eq_comm]

theorem decodeWith_eq_ok {reader : Reader ε α} {input : Bytes} {value : α} :
    decodeWith reader input = .ok value ↔
      ∃ unread, reader input = .ok (value, unread) := by
  unfold decodeWith
  cases reader input with
  | error failure => simp [Except.map]
  | ok result => simp [Except.map, Prod.ext_iff, eq_comm]

/-! ## Shorter and longer inputs -/

/-- Every strict initial part of `used` fails with `short`. -/
def FailsOnCuts (short : ε) (reader : Reader ε α) (used : Bytes) : Prop :=
  ∀ cut missing, used = cut ++ missing → missing ≠ [] → reader cut = .error short

/-- The reader's result rests on the octets it used and on no others: whatever
follows them is left unread, and without all of them it fails with `short`. -/
def Steady (short : ε) (reader : Reader ε α) : Prop :=
  ∀ input value unread, reader input = .ok (value, unread) →
    ∃ used, input = used ++ unread ∧
      (∀ more, reader (used ++ more) = .ok (value, more)) ∧
      FailsOnCuts short reader used

/-- The reader accepts complete inputs only: a part of an accepted input fails
with `short` and an accepted input with more behind it fails with `trailing`. -/
def Complete (short trailing : ε) (reader : Reader ε α) : Prop :=
  ∀ input value unread, reader input = .ok (value, unread) →
    unread = [] ∧ FailsOnCuts short reader input ∧
      ∀ more, more ≠ [] → reader (input ++ more) = .error trailing

section Cuts

variable {short trailing : ε}

theorem bind_of_ok {reader : Reader ε α} {next : α → Reader ε β}
    {input unread : Bytes} {value : α} (hread : reader input = .ok (value, unread)) :
    (reader >>= next) input = next value unread := by
  simp only [bind, StateT.bind, Except.bind, hread]

theorem bind_of_error {reader : Reader ε α} {next : α → Reader ε β}
    {input : Bytes} {failure : ε} (hread : reader input = .error failure) :
    (reader >>= next) input = .error failure := by
  simp only [bind, StateT.bind, Except.bind, hread]

/-- Nothing can be cut from the empty input. -/
theorem FailsOnCuts.nil (reader : Reader ε α) : FailsOnCuts short reader [] := by
  intro cut missing hsplit hmissing
  exact absurd (List.append_eq_nil_iff.mp hsplit.symm).2 hmissing

/-- A cut of two consecutive readings falls into the first, or it leaves the
first whole and falls into the second. -/
theorem FailsOnCuts.bind {reader : Reader ε α} {next : α → Reader ε β}
    {first : α} {usedFirst usedSecond : Bytes}
    (hmore : ∀ more, reader (usedFirst ++ more) = .ok (first, more))
    (hfirst : FailsOnCuts short reader usedFirst)
    (hsecond : FailsOnCuts short (next first) usedSecond) :
    FailsOnCuts short (reader >>= next) (usedFirst ++ usedSecond) := by
  intro cut missing hsplit hmissing
  obtain ⟨cutSecond, rfl, hused⟩ | ⟨missingFirst, hused, hrest⟩ :=
    List.append_eq_append_iff.mp hsplit
  · rw [bind_of_ok (hmore cutSecond)]
    exact hsecond cutSecond missing hused hmissing
  · by_cases hwhole : missingFirst = []
    · subst hwhole
      rw [List.append_nil] at hused
      subst hused
      rw [← List.append_nil usedFirst, bind_of_ok (hmore [])]
      exact hsecond [] missing hrest.symm hmissing
    · exact bind_of_error (hfirst cut missingFirst hused hwhole)

/-- A reader that leaves its input alone is steady. -/
theorem Steady.of_unread {reader : Reader ε α}
    (hread : ∀ input value unread, reader input = .ok (value, unread) →
      input = unread ∧ ∀ more, reader more = .ok (value, more)) :
    Steady short reader := by
  intro input value unread hok
  obtain ⟨hinput, hmore⟩ := hread input value unread hok
  exact ⟨[], hinput, hmore, FailsOnCuts.nil reader⟩

theorem Steady.pure (value : α) : Steady short (pure value : Reader ε α) := by
  apply Steady.of_unread
  intro input found unread hok
  obtain ⟨rfl, rfl⟩ := Prod.mk.inj (pure_eq_ok.mp hok)
  exact ⟨rfl, fun more => rfl⟩

theorem Steady.throw (failure : ε) : Steady short (throw failure : Reader ε α) := by
  intro input value unread hok
  exact (throw_eq_ok.mp hok).elim

theorem Steady.ensure (condition : Bool) (failure : ε) :
    Steady short (ensure condition failure) := by
  apply Steady.of_unread
  intro input done unread hok
  obtain ⟨rfl, hinput⟩ := ensure_eq_ok.mp hok
  exact ⟨hinput, fun more => rfl⟩

theorem Steady.fromResult (result : Except ε α) :
    Steady short (fromResult result) := by
  apply Steady.of_unread
  intro input value unread hok
  obtain ⟨rfl, hinput⟩ := fromResult_eq_ok.mp hok
  exact ⟨hinput, fun more => rfl⟩

theorem Steady.take (count : ℕ) : Steady short (take short count) := by
  intro input value unread hok
  obtain ⟨hlength, hinput⟩ := take_eq_ok.mp hok
  refine ⟨value, hinput, fun more => take_eq_ok.mpr ⟨hlength, rfl⟩, ?_⟩
  intro cut missing hsplit hmissing
  have hmissingLength := List.length_pos_iff.mpr hmissing
  have hshort : ¬ count ≤ cut.length := by
    rw [← hlength, hsplit, List.length_append]
    omega
  exact if_neg hshort

theorem Steady.byte : Steady short (byte short) := by
  intro input octet unread hok
  refine ⟨[octet], byte_eq_ok.mp hok, fun more => rfl, ?_⟩
  intro cut missing hsplit hmissing
  cases cut with
  | nil => rfl
  | cons head tail =>
      have htail := (List.cons.inj hsplit).2
      exact absurd (List.append_eq_nil_iff.mp htail.symm).2 hmissing

theorem Steady.bind {reader : Reader ε α} {next : α → Reader ε β}
    (hreader : Steady short reader) (hnext : ∀ value, Steady short (next value)) :
    Steady short (reader >>= next) := by
  intro input value unread hok
  obtain ⟨first, middle, hfirst, hsecond⟩ := bind_eq_ok.mp hok
  obtain ⟨usedFirst, rfl, hmoreFirst, hcutFirst⟩ := hreader _ _ _ hfirst
  obtain ⟨usedSecond, rfl, hmoreSecond, hcutSecond⟩ := hnext first _ _ _ hsecond
  refine ⟨usedFirst ++ usedSecond, by rw [List.append_assoc], ?_,
    hcutFirst.bind hmoreFirst hcutSecond⟩
  intro more
  rw [List.append_assoc, bind_of_ok (hmoreFirst _), hmoreSecond]

theorem Steady.word (width : ℕ) : Steady short (word short width) :=
  (Steady.take width).bind fun _ => Steady.pure _

/-- The end of a strict decoder: nothing may be left behind the last field. -/
theorem Complete.finish (value : α) :
    Complete short trailing (do finish trailing; pure value) := by
  intro input found unread hok
  obtain ⟨done, middle, hfinish, hpure⟩ := bind_eq_ok.mp hok
  obtain ⟨rfl, rfl⟩ := finish_eq_ok.mp hfinish
  obtain ⟨rfl, rfl⟩ := Prod.mk.inj (pure_eq_ok.mp hpure)
  refine ⟨rfl, FailsOnCuts.nil _, fun more hmore => ?_⟩
  exact bind_of_error (if_neg hmore)

theorem Complete.bind {reader : Reader ε α} {next : α → Reader ε β}
    (hreader : Steady short reader)
    (hnext : ∀ value, Complete short trailing (next value)) :
    Complete short trailing (reader >>= next) := by
  intro input value unread hok
  obtain ⟨first, middle, hfirst, hsecond⟩ := bind_eq_ok.mp hok
  obtain ⟨usedFirst, rfl, hmoreFirst, hcutFirst⟩ := hreader _ _ _ hfirst
  obtain ⟨hunread, hcutSecond, hmoreSecond⟩ := hnext first _ _ _ hsecond
  refine ⟨hunread, hcutFirst.bind hmoreFirst hcutSecond, fun more hmore => ?_⟩
  rw [List.append_assoc, bind_of_ok (hmoreFirst _), hmoreSecond more hmore]

/-- What a complete reader's decoder says about the strict prefixes and the
proper extensions of an input it accepts. -/
theorem Complete.decodeWith {reader : Reader ε α} {input : Bytes} {value : α}
    (hreader : Complete short trailing reader)
    (hok : decodeWith reader input = .ok value) :
    (∀ cut, cut <+: input → cut ≠ input →
      ByteReader.decodeWith reader cut = .error short) ∧
    ∀ more, more ≠ [] →
      ByteReader.decodeWith reader (input ++ more) = .error trailing := by
  obtain ⟨unread, hread⟩ := decodeWith_eq_ok.mp hok
  obtain ⟨-, hcut, hmore⟩ := hreader input value unread hread
  constructor
  · intro cut hinitial hne
    obtain ⟨missing, rfl⟩ := hinitial
    have hmissing : missing ≠ [] := by
      rintro rfl
      exact hne (List.append_nil cut).symm
    simp only [ByteReader.decodeWith, hcut cut missing rfl hmissing, Except.map]
  · intro more hne
    simp only [ByteReader.decodeWith, hmore more hne, Except.map]

end Cuts

end ResilientMessenger.ByteReader
