import Mathlib.Logic.Basic

/-!
# Calls that fail without rolling back

A call on a mutable object answers with a value or with a failure, and in both
cases leaves the object in whatever state it got to: nothing undoes the steps
before the one that failed.  `Triple` is the rule format for such calls, with
one postcondition for each way to end; a sequence is verified step by step, and
the failure condition is the same for all steps.
-/

namespace ResilientMessenger.Attempts

/-- A call on an object with states `σ`. -/
def Attempt (ε σ α : Type) := σ → Except ε α × σ

variable {ε σ α β : Type}

instance : Monad (Attempt ε σ) where
  pure value := fun state => (.ok value, state)
  bind call next := fun state =>
    match call state with
    | (.ok value, after) => next value after
    | (.error failure, after) => (.error failure, after)

/-- An operation of the object itself; its own failures are reported as
`failure`. -/
def attempt (failure : ε) (operation : σ → Option α × σ) : Attempt ε σ α :=
  fun state =>
    match operation state with
    | (some value, after) => (.ok value, after)
    | (none, after) => (.error failure, after)

/-- A value the call cannot go on without. -/
def need (failure : ε) (value : Option α) : Attempt ε σ α :=
  fun state => (value.elim (.error failure) .ok, state)

/-- A value read off the state. -/
def read (f : σ → α) : Attempt ε σ α := fun state => (.ok (f state), state)

/-- From every state with `P` the call ends in `Q` of its value when it succeeds
and in `E` when it fails. -/
def Triple (P : σ → Prop) (call : Attempt ε σ α) (Q : α → σ → Prop)
    (E : σ → Prop) : Prop :=
  ∀ state, P state →
    (∀ value after, call state = (.ok value, after) → Q value after) ∧
      ∀ failure after, call state = (.error failure, after) → E after

variable {P E : σ → Prop} {Q : α → σ → Prop} {R : β → σ → Prop}

/-- A success meets both postconditions when it meets its own. -/
theorem ends_of_ok {value : α} {state : σ} (hvalue : Q value state) :
    (∀ other after, ((.ok value : Except ε α), state) = (.ok other, after) →
      Q other after) ∧
    ∀ failure after, ((.ok value : Except ε α), state) = (.error failure, after) →
      E after := by
  constructor
  · intro other after hpair
    cases hpair
    exact hvalue
  · intro failure after hpair
    cases hpair

/-- A failure meets both postconditions when it meets its own. -/
theorem ends_of_error {failure : ε} {state : σ} (hfailure : E state) :
    (∀ value after, ((.error failure : Except ε α), state) = (.ok value, after) →
      Q value after) ∧
    ∀ other after, ((.error failure : Except ε α), state) = (.error other, after) →
      E after := by
  constructor
  · intro value after hpair
    cases hpair
  · intro other after hpair
    cases hpair
    exact hfailure

theorem triple_pure {value : α} (hvalue : ∀ state, P state → Q value state) :
    Triple P (pure value : Attempt ε σ α) Q E := by
  intro state hstate
  exact ends_of_ok (hvalue state hstate)

theorem bind_of_ok {call : Attempt ε σ α} {next : α → Attempt ε σ β}
    {state after : σ} {value : α} (hcall : call state = (.ok value, after)) :
    (call >>= next) state = next value after := by
  simp only [Bind.bind, hcall]

theorem bind_of_error {call : Attempt ε σ α} {next : α → Attempt ε σ β}
    {state after : σ} {failure : ε} (hcall : call state = (.error failure, after)) :
    (call >>= next) state = (.error failure, after) := by
  simp only [Bind.bind, hcall]

theorem triple_bind {call : Attempt ε σ α} {next : α → Attempt ε σ β}
    (hcall : Triple P call Q E) (hnext : ∀ value, Triple (Q value) (next value) R E) :
    Triple P (call >>= next) R E := by
  intro state hstate
  obtain ⟨hok, herror⟩ := hcall state hstate
  rcases houtcome : call state with ⟨failure | value, middle⟩
  · rw [bind_of_error houtcome]
    exact ends_of_error (herror failure middle houtcome)
  · rw [bind_of_ok houtcome]
    exact hnext value middle (hok value middle houtcome)

theorem triple_attempt {failure : ε} {operation : σ → Option α × σ}
    (hsome : ∀ state value, P state → (operation state).1 = some value →
      Q value (operation state).2)
    (hnone : ∀ state, P state → (operation state).1 = none →
      E (operation state).2) :
    Triple P (attempt failure operation) Q E := by
  intro state hstate
  have hvalue := hsome state
  have hfailure := hnone state hstate
  unfold attempt
  generalize operation state = outcome at hvalue hfailure
  obtain ⟨_ | value, middle⟩ := outcome
  · exact ends_of_error (hfailure rfl)
  · exact ends_of_ok (hvalue value hstate rfl)

theorem triple_need {failure : ε} {value : Option α}
    (hsome : ∀ state found, P state → value = some found → Q found state)
    (hnone : ∀ state, P state → E state) :
    Triple P (need failure value) Q E := by
  intro state hstate
  unfold need
  cases value with
  | none => exact ends_of_error (hnone state hstate)
  | some found => exact ends_of_ok (hsome state found hstate rfl)

theorem triple_read {f : σ → α} (hread : ∀ state, P state → Q (f state) state) :
    Triple P (read f : Attempt ε σ α) Q E := by
  intro state hstate
  exact ends_of_ok (hread state hstate)

/-- What a call keeps however it ends holds after it. -/
theorem Triple.after {call : Attempt ε σ α} (hcall : Triple P call (fun _ => P) P)
    {state : σ} (hstate : P state) : P (call state).2 := by
  obtain ⟨hok, herror⟩ := hcall state hstate
  rcases houtcome : call state with ⟨failure | value, after⟩
  · exact herror failure after houtcome
  · exact hok value after houtcome

end ResilientMessenger.Attempts
