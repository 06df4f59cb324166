import Mathlib.Tactic.Common

/-!
# All-or-nothing transactions

A transaction body computes a value and a new state or fails.  Success commits
the new state; a failure, which drops the transaction before its commit, keeps
the old one.  The rules for `Except` sequences let a proof peel a successful
body apart statement by statement.  `Matching` compares two runs of one body: they
end the same way, in related states.
-/

namespace ResilientMessenger.Transaction

variable {ε α β σ : Type}

/-- Commit the body's state on success and keep the old one otherwise. -/
def transaction (state : σ) (body : σ → Except ε (α × σ)) : Except ε α × σ :=
  match body state with
  | .ok (value, committed) => (.ok value, committed)
  | .error failure => (.error failure, state)

theorem transaction_of_ok {state committed : σ} {body : σ → Except ε (α × σ)}
    {value : α} (hbody : body state = .ok (value, committed)) :
    transaction state body = (.ok value, committed) := by
  simp [transaction, hbody]

theorem transaction_of_error {state : σ} {body : σ → Except ε (α × σ)}
    {failure : ε} (hbody : body state = .error failure) :
    transaction state body = (.error failure, state) := by
  simp [transaction, hbody]

theorem transaction_cases (state : σ) (body : σ → Except ε (α × σ)) :
    (∃ failure, transaction state body = (.error failure, state)) ∨
      ∃ value committed, body state = .ok (value, committed) ∧
        transaction state body = (.ok value, committed) := by
  cases hbody : body state with
  | error failure => exact .inl ⟨failure, transaction_of_error hbody⟩
  | ok result => exact .inr ⟨result.1, result.2, rfl, transaction_of_ok hbody⟩

/-- What holds of the old state and of every state the body can commit holds
after the transaction. -/
theorem transaction_keeps {P : σ → Prop} {state : σ} {body : σ → Except ε (α × σ)}
    (hstate : P state)
    (hbody : ∀ value committed, body state = .ok (value, committed) → P committed) :
    P (transaction state body).2 := by
  rcases transaction_cases state body with ⟨failure, hfailure⟩ |
    ⟨value, committed, hok, hcommit⟩
  · rw [hfailure]
    exact hstate
  · rw [hcommit]
    exact hbody value committed hok

theorem bind_eq_ok {result : Except ε α} {next : α → Except ε β} {value : β} :
    (result >>= next) = .ok value ↔
      ∃ intermediate, result = .ok intermediate ∧
        next intermediate = .ok value := by
  cases result <;> simp [bind, Except.bind]

theorem bind_eq_error {result : Except ε α} {next : α → Except ε β} {failure : ε} :
    (result >>= next) = .error failure ↔
      result = .error failure ∨
        ∃ intermediate, result = .ok intermediate ∧
          next intermediate = .error failure := by
  cases result <;> simp [bind, Except.bind]

theorem pure_eq_ok {intermediate value : α} :
    (pure intermediate : Except ε α) = .ok value ↔ intermediate = value := by
  simp [pure, Except.pure]

/-! ## Two runs of one body -/

/-- Both fail in the same way, or both succeed with related results. -/
inductive Matching (R : α → α → Prop) : Except ε α → Except ε α → Prop
  | ok {left right : α} (hrelated : R left right) : Matching R (.ok left) (.ok right)
  | error (failure : ε) : Matching R (.error failure) (.error failure)

theorem matching_bind {R : α → α → Prop} {S : β → β → Prop}
    {left right : Except ε α} {first second : α → Except ε β}
    (hresults : Matching R left right)
    (hnext : ∀ left right, R left right → Matching S (first left) (second right)) :
    Matching S (left >>= first) (right >>= second) := by
  cases hresults with
  | ok hrelated => exact hnext _ _ hrelated
  | error failure => exact .error failure

/-- Transactions with matching bodies on related states answer the same and leave
related states. -/
theorem transaction_matching {R : σ → σ → Prop} {left right : σ}
    {first second : σ → Except ε (α × σ)} (hstates : R left right)
    (hbodies : Matching (fun one other => one.1 = other.1 ∧ R one.2 other.2)
      (first left) (second right)) :
    (transaction left first).1 = (transaction right second).1 ∧
      R (transaction left first).2 (transaction right second).2 := by
  unfold transaction
  generalize first left = one at hbodies
  generalize second right = other at hbodies
  cases hbodies with
  | ok hrelated => exact ⟨congrArg Except.ok hrelated.1, hrelated.2⟩
  | error failure => exact ⟨rfl, hstates⟩

end ResilientMessenger.Transaction
