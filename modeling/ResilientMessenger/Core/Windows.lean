import Mathlib.Algebra.Order.Group.Defs
import Mathlib.Data.List.TakeWhile
import Mathlib.Tactic.Common

/-!
# Fixed windows

A counter with fixed windows admits a bounded number of calls in each window
and opens the next window no earlier than a fixed span after the last one.  Such
a counter bounds every span of that length, wherever it starts, by two windows:
a span contains at most one opening.
-/

namespace ResilientMessenger.Windows

variable {κ : Type} [AddCommGroup κ] [LinearOrder κ] [IsOrderedAddMonoid κ]

/-- One call: when it was made, whether it opened a window and whether it was
admitted. -/
structure Entry (κ : Type) where
  time : κ
  opens : Bool
  admitted : Bool

variable {log : List (Entry κ)} {limit : ℕ} {width : κ}

def admissions (log : List (Entry κ)) : ℕ := log.countP Entry.admitted

/-- From one opening to the next at most `limit` calls are admitted. -/
def LimitedWindows (limit : ℕ) (log : List (Entry κ)) : Prop :=
  ∀ before part after, log = before ++ part ++ after →
    (∀ entry ∈ part.tail, entry.opens = false) → admissions part ≤ limit

/-- Windows open at least `width` after each other. -/
def Spaced (width : κ) (log : List (Entry κ)) : Prop :=
  (log.filter Entry.opens).Pairwise fun earlier later =>
    earlier.time + width ≤ later.time

/-- The entries of the half-open span of length `width` from `start` on. -/
def span (start width : κ) (log : List (Entry κ)) : List (Entry κ) :=
  log.filter fun entry => start ≤ entry.time ∧ entry.time < start + width

omit [AddCommGroup κ] [LinearOrder κ] [IsOrderedAddMonoid κ] in
/-- A log keeps the limit if its rest does and every beginning does. -/
theorem limitedWindows_cons {entry : Entry κ} (hrest : LimitedWindows limit log)
    (hbeginning : ∀ part after, entry :: log = part ++ after →
      (∀ later ∈ part.tail, later.opens = false) → admissions part ≤ limit) :
    LimitedWindows limit (entry :: log) := by
  intro before part after hlog hquiet
  cases before with
  | nil => exact hbeginning part after hlog hquiet
  | cons first before =>
      rw [List.cons_append, List.cons_append, List.cons.injEq] at hlog
      exact hrest before part after hlog.2 hquiet

/-- In a log in order of time a span is a part of the log. -/
theorem span_contiguous (hordered : log.Pairwise fun earlier later =>
      earlier.time ≤ later.time) (start : κ) (hwidth : 0 ≤ width) :
    log = log.filter (fun entry => entry.time < start) ++ span start width log ++
      log.filter (fun entry => start + width ≤ entry.time) := by
  induction log with
  | nil => rfl
  | cons entry log ih =>
      rw [List.pairwise_cons] at hordered
      have hrest := ih hordered.2
      unfold span at hrest ⊢
      rcases lt_or_ge entry.time start with hearly | hlate
      · have hbeyond : entry.time < start + width :=
          hearly.trans_le (le_add_of_nonneg_right hwidth)
        simpa [hearly, not_le.mpr hearly, not_le.mpr hbeyond] using hrest
      have hnone : log.filter (fun later => later.time < start) = [] := by
        apply List.filter_eq_nil_iff.mpr
        intro later hlater
        simpa using hlate.trans (hordered.1 later hlater)
      rcases lt_or_ge entry.time (start + width) with hinside | hbeyond
      · rw [hnone] at hrest
        simpa [hnone, hlate, hinside, not_lt.mpr hlate, not_le.mpr hinside] using hrest
      · have hempty : log.filter (fun later =>
            decide (start ≤ later.time) && decide (later.time < start + width)) = [] := by
          apply List.filter_eq_nil_iff.mpr
          intro later hlater
          simp [not_lt.mpr (hbeyond.trans (hordered.1 later hlater))]
        simp only [Bool.decide_and, hnone, hempty] at hrest
        simpa [hnone, hempty, hbeyond, not_lt.mpr hlate, not_lt.mpr hbeyond] using hrest

/-- Two openings do not fit into one span. -/
theorem single_opening (hspaced : Spaced width log) {start : κ}
    {front rest : List (Entry κ)} {entry later : Entry κ}
    (hspan : span start width log = front ++ entry :: rest)
    (hopens : entry.opens = true) (hlater : later ∈ rest) : later.opens = false := by
  rw [Bool.eq_false_iff]
  intro hagain
  have hsub : [entry, later].Sublist (log.filter Entry.opens) := by
    have hpair : [entry, later].Sublist (span start width log) := by
      rw [hspan]
      exact ((List.singleton_sublist.mpr hlater).cons_cons entry).trans
        (List.sublist_append_right front _)
    have hfiltered := (hpair.trans List.filter_sublist).filter Entry.opens
    simpa [hopens, hagain] using hfiltered
  have hgap : entry.time + width ≤ later.time := by
    simpa using hspaced.sublist hsub
  have hinside (other : Entry κ) (hmem : other ∈ span start width log) :
      start ≤ other.time ∧ other.time < start + width := by
    simpa using (List.mem_filter.mp hmem).2
  have hfirst := hinside entry (by simp [hspan])
  have hsecond := hinside later (by simp [hspan, hlater])
  have hbeyond : start + width ≤ later.time :=
    (add_le_add_left hfirst.1 width).trans hgap
  exact absurd hsecond.2 (not_lt.mpr hbeyond)

/-- Any span of the length of a window admits at most two windows' worth. -/
theorem admissions_span_le (hordered : log.Pairwise fun earlier later =>
      earlier.time ≤ later.time) (hwidth : 0 ≤ width)
    (hlimited : LimitedWindows limit log) (hspaced : Spaced width log) (start : κ) :
    admissions (span start width log) ≤ 2 * limit := by
  have hlog := span_contiguous hordered start hwidth
  -- The span is cut at its first opening, if it has one.
  have hcut := List.takeWhile_append_dropWhile (p := fun entry : Entry κ => !entry.opens)
    (l := span start width log)
  generalize hquiet : (span start width log).takeWhile (fun entry => !entry.opens) =
    quiet at hcut
  generalize hopened : (span start width log).dropWhile (fun entry => !entry.opens) =
    opened at hcut
  rw [← hcut] at hlog
  have hfirst : admissions quiet ≤ limit := by
    apply hlimited (log.filter fun entry => entry.time < start) quiet
      (opened ++ log.filter fun entry => start + width ≤ entry.time)
    · simpa using hlog
    · intro entry hentry
      rw [← hquiet] at hentry
      simpa using List.mem_takeWhile_imp (List.mem_of_mem_tail hentry)
  have hsecond : admissions opened ≤ limit := by
    apply hlimited ((log.filter fun entry => entry.time < start) ++ quiet) opened
      (log.filter fun entry => start + width ≤ entry.time)
    · simpa using hlog
    · cases opened with
      | nil => simp
      | cons entry rest =>
          intro later hlater
          have hhead : entry.opens = true := by
            have hnot := List.head?_dropWhile_not (fun entry : Entry κ => !entry.opens)
              (span start width log)
            rw [hopened] at hnot
            simpa using hnot
          exact single_opening hspaced hcut.symm hhead hlater
  calc admissions (span start width log)
      = admissions quiet + admissions opened := by
        rw [← hcut, admissions, List.countP_append]
        rfl
    _ ≤ 2 * limit := by omega

end ResilientMessenger.Windows
