import Mathlib.Data.List.Basic
import Mathlib.Data.Set.Basic
import Mathlib.Logic.Function.Basic

/-!
# Threads and locks

Threads run straight-line programs of acquire and release actions on mutexes
and reader-writer locks.  A scheduler picks which thread advances; an
acquisition that conflicts with a holder does not happen.  The two rules every
lock program is analysed with are that holders never conflict
(`Exclusive`) and that a thread holds exactly the locks its remaining program
releases before taking them again (`Accounts`), so the set of waiting threads
is determined by the programs alone.
-/

namespace ResilientMessenger.Locking

/-- A mutex is a lock that is only ever taken exclusively. -/
inductive Mode where
  | shared
  | exclusive
  deriving DecidableEq

def Mode.conflicts : Mode → Mode → Bool
  | .shared, .shared => false
  | _, _ => true

inductive Action (L : Type) where
  | acquire (lock : L) (mode : Mode)
  | release (lock : L) (mode : Mode)
  deriving DecidableEq

/-- What every thread has still to do, and who holds every lock. -/
structure State (L : Type) where
  todo : ℕ → List (Action L)
  holders : L → List (ℕ × Mode)

/-- A scheduling decision: an idle thread starts a call, or a thread takes its
next action. -/
inductive Label (C : Type) where
  | start (thread : ℕ) (call : C)
  | advance (thread : ℕ)

section System

variable {L C : Type}

def State.idle : State L where
  todo _ := []
  holders _ := []

/-- A lock is granted when no holder's mode conflicts. -/
def State.grants (state : State L) (lock : L) (mode : Mode) : Bool :=
  (state.holders lock).all fun holder => !mode.conflicts holder.2

variable [DecidableEq L]

/-- The thread becomes a holder and goes on with the rest of its program. -/
def State.take (state : State L) (thread : ℕ) (lock : L) (mode : Mode)
    (rest : List (Action L)) : State L where
  todo := Function.update state.todo thread rest
  holders := Function.update state.holders lock
    ((thread, mode) :: state.holders lock)

/-- The thread is no longer a holder and goes on with the rest of its program. -/
def State.drop (state : State L) (thread : ℕ) (lock : L) (mode : Mode)
    (rest : List (Action L)) : State L where
  todo := Function.update state.todo thread rest
  holders := Function.update state.holders lock
    ((state.holders lock).filter fun holder => holder ≠ (thread, mode))

def State.advance (state : State L) (thread : ℕ) : State L :=
  match state.todo thread with
  | [] => state
  | .acquire lock mode :: rest =>
      if state.grants lock mode then state.take thread lock mode rest else state
  | .release lock mode :: rest => state.drop thread lock mode rest

def State.step (locks : C → List (Action L)) (state : State L) :
    Label C → State L
  | .start thread call =>
      if state.todo thread = [] then
        { state with
          todo := Function.update state.todo thread (locks call) }
      else state
  | .advance thread => state.advance thread

/-- The thread's next action is refused because the other thread holds the
lock. -/
def WaitsFor (state : State L) (thread other : ℕ) : Prop :=
  ∃ lock mode rest held, state.todo thread = .acquire lock mode :: rest ∧
    other ≠ thread ∧ (other, held) ∈ state.holders lock ∧
      mode.conflicts held = true

/-- A non-empty set of threads each of which waits for another of the set. -/
def Deadlock (state : State L) : Prop :=
  ∃ threads : Set ℕ, threads.Nonempty ∧
    ∀ thread ∈ threads, ∃ other ∈ threads, WaitsFor state thread other

/-! ## What a step does -/

@[simp]
theorem take_todo (state : State L) (thread : ℕ) (lock : L) (mode : Mode)
    (rest : List (Action L)) :
    (state.take thread lock mode rest).todo =
      Function.update state.todo thread rest := rfl

@[simp]
theorem drop_todo (state : State L) (thread : ℕ) (lock : L) (mode : Mode)
    (rest : List (Action L)) :
    (state.drop thread lock mode rest).todo =
      Function.update state.todo thread rest := rfl

theorem mem_take_holders (state : State L) (thread : ℕ) (lock : L) (mode : Mode)
    (rest : List (Action L)) (other : L) (holder : ℕ) (held : Mode) :
    (holder, held) ∈ (state.take thread lock mode rest).holders other ↔
      (holder = thread ∧ (other, held) = (lock, mode)) ∨
        (holder, held) ∈ state.holders other := by
  by_cases hother : other = lock
  · subst hother
    simp [State.take]
  · simp [State.take, hother]

theorem mem_drop_holders (state : State L) (thread : ℕ) (lock : L) (mode : Mode)
    (rest : List (Action L)) (other : L) (holder : ℕ) (held : Mode) :
    (holder, held) ∈ (state.drop thread lock mode rest).holders other ↔
      ¬(holder = thread ∧ (other, held) = (lock, mode)) ∧
        (holder, held) ∈ state.holders other := by
  by_cases hother : other = lock
  · subst hother
    simp only [State.drop, Function.update_self, List.mem_filter, Prod.mk.injEq,
      decide_eq_true_eq, ne_eq, true_and]
    exact and_comm
  · simp [State.drop, hother]

/-- The complete list of ways a thread can advance. -/
theorem advance_cases (state : State L) (thread : ℕ) :
    state.advance thread = state ∨
      (∃ lock mode rest, state.todo thread = .acquire lock mode :: rest ∧
        state.grants lock mode = true ∧
        state.advance thread = state.take thread lock mode rest) ∨
      ∃ lock mode rest, state.todo thread = .release lock mode :: rest ∧
        state.advance thread = state.drop thread lock mode rest := by
  unfold State.advance
  split
  case h_1 => exact .inl rfl
  case h_2 lock mode rest htodo =>
    by_cases hgrants : state.grants lock mode = true
    · exact .inr (.inl ⟨lock, mode, rest, htodo, hgrants, if_pos hgrants⟩)
    · exact .inl (if_neg hgrants)
  case h_3 lock mode rest htodo =>
    exact .inr (.inr ⟨lock, mode, rest, htodo, rfl⟩)

/-- A property of programs that survives their first action holds of what every
thread has still to do. -/
theorem todo_step {locks : C → List (Action L)} {P : List (Action L) → Prop}
    (htail : ∀ action rest, P (action :: rest) → P rest)
    (hlocks : ∀ call, P (locks call)) {state : State L}
    (htodo : ∀ thread, P (state.todo thread)) (label : Label C) (thread : ℕ) :
    P ((state.step locks label).todo thread) := by
  cases label with
  | start starter call =>
      simp only [State.step]
      split
      · by_cases hthread : thread = starter
        · simpa [hthread] using hlocks call
        · simpa [hthread] using htodo thread
      · exact htodo thread
  | advance mover =>
      simp only [State.step]
      rcases advance_cases state mover with hsame |
        ⟨lock, mode, rest, hmover, -, hadvance⟩ |
        ⟨lock, mode, rest, hmover, hadvance⟩
      · rw [hsame]
        exact htodo thread
      all_goals
        have hrest : P rest := htail _ rest (hmover ▸ htodo mover)
        rw [hadvance]
        by_cases hthread : thread = mover
        · simpa [hthread] using hrest
        · simpa [hthread] using htodo thread

/-! ## Mutual exclusion -/

/-- Two different threads never hold a lock in conflicting modes. -/
def Exclusive (state : State L) : Prop :=
  ∀ lock thread other mode held, (thread, mode) ∈ state.holders lock →
    (other, held) ∈ state.holders lock → mode.conflicts held = true →
      thread = other

omit [DecidableEq L] in
theorem grants_eq_true {state : State L} {lock : L} {mode : Mode} :
    state.grants lock mode = true ↔
      ∀ other held, (other, held) ∈ state.holders lock →
        mode.conflicts held = false := by
  simp [State.grants]

theorem Mode.conflicts_comm (left right : Mode) :
    left.conflicts right = right.conflicts left := by
  cases left <;> cases right <;> rfl

theorem exclusive_step {locks : C → List (Action L)} {state : State L}
    (hexclusive : Exclusive state) (label : Label C) :
    Exclusive (state.step locks label) := by
  cases label with
  | start starter call =>
      simp only [State.step]
      split <;> exact hexclusive
  | advance mover =>
      simp only [State.step]
      rcases advance_cases state mover with hsame |
        ⟨lock, mode, rest, -, hgrants, hadvance⟩ | ⟨lock, mode, rest, -, hadvance⟩
      · rw [hsame]
        exact hexclusive
      · rw [grants_eq_true] at hgrants
        intro other left right modeLeft modeRight hleft hright hconflict
        rw [hadvance, mem_take_holders] at hleft hright
        rcases hleft with ⟨hleft, hmode⟩ | hleft <;>
          rcases hright with ⟨hright, hheld⟩ | hright
        · rw [hleft, hright]
        · cases hmode
          rw [hgrants right modeRight hright] at hconflict
          cases hconflict
        · cases hheld
          rw [Mode.conflicts_comm, hgrants left modeLeft hleft] at hconflict
          cases hconflict
        · exact hexclusive other left right modeLeft modeRight hleft hright
            hconflict
      · intro other left right modeLeft modeRight hleft hright hconflict
        rw [hadvance, mem_drop_holders] at hleft hright
        exact hexclusive other left right modeLeft modeRight hleft.2 hright.2
          hconflict

/-! ## What a thread holds -/

/-- The locks a program expects to hold when it starts: those it releases
before it takes them. -/
def heldBefore : List (Action L) → List (L × Mode)
  | [] => []
  | .acquire lock mode :: rest => (heldBefore rest).erase (lock, mode)
  | .release lock mode :: rest => (lock, mode) :: heldBefore rest

/-- Every lock that is taken is released once. -/
def Bracketed : List (Action L) → Prop
  | [] => True
  | .acquire lock mode :: rest => (lock, mode) ∈ heldBefore rest ∧ Bracketed rest
  | .release lock mode :: rest => (lock, mode) ∉ heldBefore rest ∧ Bracketed rest

/-- The lock table agrees with the remaining programs. -/
def Accounts (state : State L) : Prop :=
  ∀ thread lock mode, (thread, mode) ∈ state.holders lock ↔
    (lock, mode) ∈ heldBefore (state.todo thread)

theorem bracketed_tail (action : Action L) (rest : List (Action L))
    (hbracketed : Bracketed (action :: rest)) : Bracketed rest := by
  cases action <;> exact hbracketed.2

theorem accounts_step {locks : C → List (Action L)}
    (hfree : ∀ call, heldBefore (locks call) = []) {state : State L}
    (hbracketed : ∀ thread, Bracketed (state.todo thread))
    (haccounts : Accounts state) (label : Label C) :
    Accounts (state.step locks label) := by
  intro thread other held
  have hbefore := haccounts thread other held
  cases label with
  | start starter call =>
      simp only [State.step]
      split
      case isTrue hidle =>
        by_cases hthread : thread = starter
        · rw [hthread, hidle] at hbefore
          simpa [hthread, hfree, heldBefore] using hbefore
        · simpa [hthread] using hbefore
      case isFalse => exact hbefore
  | advance mover =>
      simp only [State.step]
      rcases advance_cases state mover with hsame |
        ⟨lock, mode, rest, hmover, -, hadvance⟩ |
        ⟨lock, mode, rest, hmover, hadvance⟩
      · rw [hsame]
        exact hbefore
      · have hprogram := hbracketed mover
        rw [hmover] at hprogram
        rw [hadvance, mem_take_holders, hbefore]
        by_cases hthread : thread = mover
        · rw [hthread, take_todo, Function.update_self, hmover, heldBefore]
          by_cases hpair : (other, held) = (lock, mode)
          · simp [hpair, hprogram.1]
          · simp [hpair, List.mem_erase_of_ne hpair]
        · simp [hthread]
      · have hprogram := hbracketed mover
        rw [hmover] at hprogram
        rw [hadvance, mem_drop_holders, hbefore]
        by_cases hthread : thread = mover
        · rw [hthread, drop_todo, Function.update_self, hmover, heldBefore]
          by_cases hpair : (other, held) = (lock, mode)
          · simp [hpair, hprogram.1]
          · simp [hpair]
        · simp [hthread]

/-! ## The invariant of every run -/

/-- The bookkeeping that holds whenever every call brackets its locks. -/
structure Sound (state : State L) : Prop where
  exclusive : Exclusive state
  bracketed : ∀ thread, Bracketed (state.todo thread)
  accounts : Accounts state

theorem sound_idle : Sound (State.idle : State L) where
  exclusive := by
    intro lock thread other mode held hthread
    cases hthread
  bracketed _ := trivial
  accounts := by
    intro thread lock mode
    simp [State.idle, heldBefore]

theorem sound_step {locks : C → List (Action L)}
    (hfree : ∀ call, heldBefore (locks call) = [])
    (hlocks : ∀ call, Bracketed (locks call)) {state : State L}
    (hsound : Sound state) (label : Label C) :
    Sound (state.step locks label) where
  exclusive := exclusive_step hsound.exclusive label
  bracketed := todo_step bracketed_tail hlocks hsound.bracketed label
  accounts := accounts_step hfree hsound.bracketed hsound.accounts label

end System

end ResilientMessenger.Locking
