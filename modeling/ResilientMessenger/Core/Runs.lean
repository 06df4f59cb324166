import Mathlib.Data.List.Basic
import Mathlib.Data.List.Induction

/-!
# Runs of a labelled system

A system is a total step function: all nondeterminism, including scheduling
and the environment's answers, is in the labels.  `Along` states that a
property holds in every state a run visits and `Guarded` that every label is
taken in a state where its guard holds.  `along_iff_guarded` is the rule for
defects: a step that keeps the invariant exactly when its guard holds makes
the two notions coincide on whole runs.  `Ascending` compares any two states
of a run.  `holds_iff_since` is the rule for a condition that outlasts the step
that brought it about.  `trace_congr` is the rule for two runs: a relation that
every request keeps, with equal outputs, makes all their outputs equal.
-/

namespace ResilientMessenger.Runs

variable {σ α : Type*} (step : σ → α → σ)

/-- The state after a run. -/
def run (start : σ) (labels : List α) : σ := labels.foldl step start

/-- `P` holds in the start state and after every label of the run. -/
def Along (P : σ → Prop) : σ → List α → Prop
  | start, [] => P start
  | start, label :: labels => P start ∧ Along P (step start label) labels

/-- Every label of the run is taken in a state that satisfies its guard. -/
def Guarded (G : σ → α → Prop) : σ → List α → Prop
  | _, [] => True
  | start, label :: labels =>
      G start label ∧ Guarded G (step start label) labels

variable {step}

@[simp]
theorem run_nil (start : σ) : run step start [] = start := rfl

@[simp]
theorem run_cons (start : σ) (label : α) (labels : List α) :
    run step start (label :: labels) = run step (step start label) labels := rfl

theorem run_append (start : σ) (left right : List α) :
    run step start (left ++ right) = run step (run step start left) right :=
  List.foldl_append

theorem guarded_append {G : σ → α → Prop} {start : σ} {left right : List α} :
    Guarded step G start (left ++ right) ↔
      Guarded step G start left ∧ Guarded step G (run step start left) right := by
  induction left generalizing start with
  | nil => simp [Guarded]
  | cons label labels ih => simp [Guarded, ih, and_assoc]

/-- A run is guarded when each of its labels is, in the state it is taken in. -/
theorem guarded_iff {G : σ → α → Prop} {start : σ} {labels : List α} :
    Guarded step G start labels ↔
      ∀ before label after, labels = before ++ label :: after →
        G (run step start before) label := by
  constructor
  · rintro hguarded before label after rfl
    exact (guarded_append.mp hguarded).2.1
  · intro hlabels
    induction labels generalizing start with
    | nil => trivial
    | cons label labels ih =>
        refine ⟨hlabels [] label labels rfl, ih ?_⟩
        intro before next after hsplit
        apply hlabels (label :: before) next after
        rw [hsplit]
        rfl

/-- An invariant kept by every step holds at the end of every run. -/
theorem run_invariant {P : σ → Prop}
    (hstep : ∀ state label, P state → P (step state label))
    {start : σ} (hstart : P start) (labels : List α) :
    P (run step start labels) := by
  induction labels generalizing start with
  | nil => exact hstart
  | cons label labels ih => exact ih (hstep start label hstart)

/-- An invariant kept by the labels of a run holds at its end. -/
theorem run_invariant_on {P : σ → Prop} {labels : List α}
    (hstep : ∀ state, ∀ label ∈ labels, P state → P (step state label))
    {start : σ} (hstart : P start) : P (run step start labels) := by
  induction labels generalizing start with
  | nil => exact hstart
  | cons label labels ih =>
      apply ih (fun state later hlater => hstep state later (List.mem_cons_of_mem _ hlater))
      exact hstep start label List.mem_cons_self hstart

/-- A property of the labels so far and the state they lead to holds of every
run when each further step keeps it. -/
theorem run_history {P : List α → σ → Prop} {start : σ} (hstart : P [] start)
    (hstep : ∀ labels label, P labels (run step start labels) →
      P (labels ++ [label]) (step (run step start labels) label))
    (labels : List α) : P labels (run step start labels) := by
  induction labels using List.reverseRecOn with
  | nil => exact hstart
  | append_singleton labels label ih =>
      rw [run_append]
      exact hstep labels label ih

variable (step) in
/-- Some label of the run was taken in a state where `G` holds. -/
def Once (G : σ → α → Prop) (start : σ) (labels : List α) : Prop :=
  ∃ before label after, labels = before ++ label :: after ∧
    G (run step start before) label

theorem once_append {G : σ → α → Prop} {start : σ} {labels : List α}
    (honce : Once step G start labels) (more : List α) :
    Once step G start (labels ++ more) := by
  obtain ⟨before, label, after, rfl, hlabel⟩ := honce
  exact ⟨before, label, after ++ more, by simp, hlabel⟩

theorem once_last {G : σ → α → Prop} {start : σ} {labels : List α} {label : α}
    (hlabel : G (run step start labels) label) :
    Once step G start (labels ++ [label]) :=
  ⟨labels, label, [], rfl, hlabel⟩

/-- A guard that follows from the invariant of every run guards every run. -/
theorem guarded_of_invariant {Inv : σ → Prop} {G : σ → α → Prop}
    (hkeep : ∀ state label, Inv state → Inv (step state label))
    (hguard : ∀ state label, Inv state → G state label)
    {start : σ} (hstart : Inv start) (labels : List α) :
    Guarded step G start labels := by
  induction labels generalizing start with
  | nil => trivial
  | cons label labels ih =>
      exact ⟨hguard start label hstart, ih (hkeep start label hstart)⟩

/-- Two guards that agree wherever the invariant of every run holds guard the
same runs. -/
theorem guarded_congr {Inv : σ → Prop} {G H : σ → α → Prop}
    (hkeep : ∀ state label, Inv state → Inv (step state label))
    (hagree : ∀ state label, Inv state → (G state label ↔ H state label))
    {start : σ} (hstart : Inv start) (labels : List α) :
    Guarded step G start labels ↔ Guarded step H start labels := by
  induction labels generalizing start with
  | nil => exact Iff.rfl
  | cons label labels ih =>
      simp only [Guarded]
      rw [hagree start label hstart, ih (hkeep start label hstart)]

theorem guarded_mono {G H : σ → α → Prop} (hweaker : ∀ state label, G state label →
    H state label) {start : σ} {labels : List α}
    (hguarded : Guarded step G start labels) : Guarded step H start labels := by
  induction labels generalizing start with
  | nil => trivial
  | cons label labels ih => exact ⟨hweaker start label hguarded.1, ih hguarded.2⟩

/-- Two guarded runs of one length are the same run, or there is a state that
they both reach and leave by different labels. -/
theorem eq_or_parted {G : σ → α → Prop} {start : σ} {left right : List α}
    (hleft : Guarded step G start left) (hright : Guarded step G start right)
    (hlength : left.length = right.length) :
    left = right ∨ ∃ shared first second, first ≠ second ∧
      shared ++ [first] <+: left ∧ shared ++ [second] <+: right ∧
      G (run step start shared) first ∧ G (run step start shared) second := by
  induction left generalizing start right with
  | nil => exact .inl (List.length_eq_zero_iff.mp hlength.symm).symm
  | cons first left ih =>
      cases right with
      | nil => cases hlength
      | cons second right =>
          by_cases hsame : first = second
          · subst hsame
            rcases ih hleft.2 hright.2 (Nat.succ.inj hlength) with rfl |
              ⟨shared, one, other, hne, hone, hother, hguards⟩
            · exact .inl rfl
            · refine .inr ⟨first :: shared, one, other, hne, ?_, ?_, hguards⟩
              · exact List.cons_prefix_cons.mpr ⟨rfl, hone⟩
              · exact List.cons_prefix_cons.mpr ⟨rfl, hother⟩
          · exact .inr ⟨[], first, second, hsame, ⟨left, rfl⟩, ⟨right, rfl⟩,
              hleft.1, hright.1⟩

variable (step) in
/-- Every state of the run is related to every later one. -/
def Ascending (R : σ → σ → Prop) (start : σ) (labels : List α) : Prop :=
  ∀ before middle after, labels = before ++ middle ++ after →
    R (run step start before) (run step start (before ++ middle))

theorem related_of_guarded {R : σ → σ → Prop} (hrefl : ∀ state, R state state)
    (htrans : ∀ first second third, R first second → R second third →
      R first third) {start : σ} {labels : List α}
    (hguarded : Guarded step (fun state label => R state (step state label))
      start labels) : R start (run step start labels) := by
  induction labels generalizing start with
  | nil => exact hrefl start
  | cons label labels ih =>
      exact htrans _ _ _ hguarded.1 (ih hguarded.2)

/-- A preorder that no step descends is ascended by the whole run. -/
theorem ascending_iff_guarded {R : σ → σ → Prop} (hrefl : ∀ state, R state state)
    (htrans : ∀ first second third, R first second → R second third →
      R first third) {start : σ} {labels : List α} :
    Ascending step R start labels ↔
      Guarded step (fun state label => R state (step state label)) start
        labels := by
  constructor
  · intro hascending
    induction labels generalizing start with
    | nil => trivial
    | cons label labels ih =>
        refine ⟨hascending [] [label] labels rfl, ih ?_⟩
        intro before middle after hlabels
        apply hascending (label :: before) middle after
        rw [hlabels]
        rfl
  · intro hguarded before middle after hlabels
    rw [hlabels, List.append_assoc] at hguarded
    have hmiddle := (guarded_append.mp (guarded_append.mp hguarded).2).1
    rw [run_append]
    exact related_of_guarded hrefl htrans hmiddle

/-- If every step keeps the invariant when its guard holds and breaks the
property when it does not, a run has the property throughout exactly when all
its steps are guarded. -/
theorem along_iff_guarded {Inv P : σ → Prop} {G : σ → α → Prop}
    (hproperty : ∀ state, Inv state → P state)
    (hkeep : ∀ state label, Inv state → G state label → Inv (step state label))
    (hbreak : ∀ state label, Inv state → ¬G state label → ¬P (step state label))
    {start : σ} (hstart : Inv start) (labels : List α) :
    Along step P start labels ↔ Guarded step G start labels := by
  induction labels generalizing start with
  | nil => simpa [Along, Guarded] using hproperty start hstart
  | cons label labels ih =>
      simp only [Along, Guarded]
      constructor
      · rintro ⟨-, htail⟩
        have hnext : P (step start label) := by
          cases labels with
          | nil => exact htail
          | cons next rest => exact htail.1
        have hguard : G start label := by
          by_contra hunguarded
          exact hbreak start label hstart hunguarded hnext
        exact ⟨hguard, (ih (hkeep start label hstart hguard)).mp htail⟩
      · rintro ⟨hguard, htail⟩
        exact ⟨hproperty start hstart,
          (ih (hkeep start label hstart hguard)).mpr htail⟩

/-! ## Since -/

variable (step) in
/-- Some label was taken in a state where `G` holds, and all labels since then in
states where `K` holds. -/
def Since (G K : σ → α → Prop) (start : σ) (labels : List α) : Prop :=
  ∃ before label after, labels = before ++ label :: after ∧
    G (run step start before) label ∧
    Guarded step K (step (run step start before) label) after

theorem since_concat {G K : σ → α → Prop} {start : σ} {labels : List α} {label : α} :
    Since step G K start (labels ++ [label]) ↔
      G (run step start labels) label ∨
        Since step G K start labels ∧ K (run step start labels) label := by
  constructor
  · rintro ⟨before, earlier, after, hlabels, hearlier, hguarded⟩
    induction after using List.reverseRecOn with
    | nil =>
        obtain ⟨rfl, hlast⟩ := List.append_inj' hlabels rfl
        cases hlast
        exact .inl hearlier
    | append_singleton after last _ =>
        rw [← List.cons_append, ← List.append_assoc] at hlabels
        obtain ⟨rfl, hlast⟩ := List.append_inj' hlabels rfl
        cases hlast
        obtain ⟨hafter, hnow, -⟩ := guarded_append.mp hguarded
        rw [run_append]
        exact .inr ⟨⟨before, earlier, after, rfl, hearlier, hafter⟩, hnow⟩
  · rintro (hlabel | ⟨⟨before, earlier, after, rfl, hearlier, hafter⟩, hnow⟩)
    · exact ⟨labels, label, [], rfl, hlabel, trivial⟩
    · refine ⟨before, earlier, after ++ [label], by simp, hearlier, ?_⟩
      rw [run_append] at hnow
      exact guarded_append.mpr ⟨hafter, hnow, trivial⟩

/-- A condition that only a `G` brings about and every `K` keeps tells that there
was a `G` and only `K` since. -/
theorem holds_iff_since {Inv P : σ → Prop} {G K : σ → α → Prop}
    (hkeep : ∀ state label, Inv state → Inv (step state label))
    (hstep : ∀ state label, Inv state →
      (P (step state label) ↔ G state label ∨ P state ∧ K state label))
    {start : σ} (hstart : Inv start) (hnot : ¬P start) (labels : List α) :
    P (run step start labels) ↔ Since step G K start labels := by
  induction labels using List.reverseRecOn with
  | nil => simp [Since, hnot]
  | append_singleton labels label ih =>
      rw [since_concat, ← ih, run_append]
      exact hstep (run step start labels) label (run_invariant hkeep hstart labels)

/-! ## Outputs -/

variable {β γ : Type*}

/-- The outputs of a run, when a step also answers. -/
def trace (respond : σ → α → β × σ) : σ → List α → List β
  | _, [] => []
  | state, request :: requests =>
      (respond state request).1 :: trace respond (respond state request).2 requests

/-- Related states show the same outputs over a whole run when every request does and
leaves related states. -/
theorem trace_congr {respond : σ → α → β × σ} {R : σ → σ → Prop} (shown : β → γ)
    (hrespond : ∀ left right request, R left right →
      shown (respond left request).1 = shown (respond right request).1 ∧
        R (respond left request).2 (respond right request).2)
    {left right : σ} (hrelated : R left right) (requests : List α) :
    (trace respond left requests).map shown =
      (trace respond right requests).map shown := by
  induction requests generalizing left right with
  | nil => rfl
  | cons request requests ih =>
      obtain ⟨hshown, hnext⟩ := hrespond left right request hrelated
      simp only [trace, List.map_cons, hshown, ih hnext]

variable (step) in
/-- What is picked from the steps of a run, in their order. -/
def picked (pick : σ → α → Option β) : σ → List α → List β
  | _, [] => []
  | state, label :: labels =>
      (pick state label).toList ++ picked pick (step state label) labels

theorem picked_concat (pick : σ → α → Option β) (start : σ) (labels : List α)
    (label : α) :
    picked step pick start (labels ++ [label]) =
      picked step pick start labels ++
        (pick (run step start labels) label).toList := by
  induction labels generalizing start with
  | nil => simp [picked]
  | cons first labels ih =>
      simp only [List.cons_append, picked, ih, run_cons, List.append_assoc]

end ResilientMessenger.Runs
