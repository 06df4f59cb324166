import ResilientMessenger.Core.Runs
import ResilientMessenger.Core.Windows
import ResilientMessenger.Server.Schema

/-!
# The abuse counters

`check_rate_limit` counts a call and compares in one statement: the row of the
scope is inserted, restarted or incremented, and the call is refused when the
stored count exceeds the maximum.  Refused calls are counted as well.  The row
only ever describes one window, so the bound over an arbitrary span of time
rests on the whole history of calls.
-/

namespace ResilientMessenger.RateLimits

open ResilientMessenger.ByteCodec
open ResilientMessenger.Schema
open ResilientMessenger.Runs
open ResilientMessenger.Windows

/-! ## The statement -/

/-- The first timestamp the database represents, in the year 4713 BC. -/
def earliestTime : Time := -210866803200000000

abbrev Timestamp := { time : Time // earliestTime ≤ time }

/-- The largest `INTEGER`. -/
def maxCount : ℕ := 2147483647

structure CounterRow where
  scope : Bytes
  windowStart : Timestamp
  count : ℕ
  deriving DecidableEq

abbrev Counters := Table CounterRow.scope

/-- Both `CASE` expressions look at the old row.  The statement fails when the
difference of timestamps or the sum of counts is out of range.  The interval is
computed from a floating-point number of seconds, which is exact for every window
that does not reach back before the first timestamp. -/
def CounterRow.counted (now : Timestamp) (window : ℤ) (row : CounterRow) :
    Option CounterRow :=
  if now.1 - window < earliestTime then none
  else if row.windowStart.1 ≤ now.1 - window then
    some { row with windowStart := now, count := 1 }
  else if maxCount ≤ row.count then none
  else some { row with count := row.count + 1 }

theorem scope_withWindow (next stored : CounterRow) :
    CounterRow.scope { stored with
      windowStart := next.windowStart
      count := next.count } = stored.scope := rfl

/-- `INSERT … ON CONFLICT(scope) DO UPDATE … RETURNING count`. -/
def countRequest (now : Timestamp) (scope : Bytes) (window : ℤ)
    (counters : Counters) : Except ApiError (ℕ × Counters) :=
  match counters.lookup scope with
  | none => .ok (1, counters.insertOrIgnore ⟨scope, now, 1⟩)
  | some row =>
      match row.counted now window with
      | none => .error .database
      | some next =>
          .ok (next.count, counters.modify scope (fun _ => true)
            (fun stored =>
              { stored with
                windowStart := next.windowStart
                count := next.count }) (scope_withWindow next))

def checkRateLimit (now : Timestamp) (scope : Bytes) (maximum windowSeconds : ℤ)
    (counters : Counters) : Except ApiError Unit × Counters :=
  if scope = [] ∨ 96 < scope.length ∨ maximum < 1 ∨ windowSeconds < 1 then
    (.error .invalidInput, counters)
  else
    match countRequest now scope (seconds windowSeconds) counters with
    | .error failure => (.error failure, counters)
    | .ok (count, counters) =>
        if maximum < count then (.error .unauthorized, counters)
        else (.ok (), counters)

/-! ## Histories -/

/-- A call for some scope. -/
structure Arrival where
  now : Timestamp
  scope : Bytes

/-- All calls use the same maximum and window. -/
def step (maximum windowSeconds : ℤ) (counters : Counters) (arrival : Arrival) :
    Counters :=
  (checkRateLimit arrival.now arrival.scope maximum windowSeconds counters).2

/-- There is no window, or the last one is over. -/
def restarts (now : Timestamp) (window : ℤ) : Option CounterRow → Bool
  | none => true
  | some row => row.windowStart.1 + window ≤ now.1

/-- When the current window of the scope began. -/
def windowOf (scope : Bytes) (counters : Counters) : Option Timestamp :=
  (counters.lookup scope).map CounterRow.windowStart

/-- What is recorded of a call when it is for the scope.  It opens a window when
the stored start of the window moves. -/
def recorded (scope : Bytes) (maximum windowSeconds : ℤ) (counters : Counters)
    (arrival : Arrival) : List (Entry Time) :=
  if arrival.scope = scope then
    let answer := checkRateLimit arrival.now scope maximum windowSeconds counters
    [{ time := arrival.now.1
       opens := windowOf scope answer.2 ≠ windowOf scope counters
       admitted := answer.1.isOk }]
  else []

/-- The calls for the scope, among calls for any scopes. -/
def history (scope : Bytes) (maximum windowSeconds : ℤ) :
    Counters → List Arrival → List (Entry Time)
  | _, [] => []
  | counters, arrival :: arrivals =>
      recorded scope maximum windowSeconds counters arrival ++
        history scope maximum windowSeconds
          (step maximum windowSeconds counters arrival) arrivals

/-- The checks on the arguments. -/
structure Valid (scope : Bytes) (maximum windowSeconds : ℤ) : Prop where
  nonempty : scope ≠ []
  short : scope.length ≤ 96
  maximum : 1 ≤ maximum
  window : 1 ≤ windowSeconds

/-! ## One call -/

section Calls

variable {now : Timestamp} {scope : Bytes} {maximum windowSeconds : ℤ}
variable {counters : Counters}

/-- A call after the end of a window starts the next one. -/
theorem countRequest_opening {window : ℤ}
    (hopens : restarts now window (counters.lookup scope) = true) :
    ∃ next, countRequest now scope window counters = .ok (1, next) ∧
      next.lookup scope = some ⟨scope, now, 1⟩ := by
  rw [countRequest]
  cases hlookup : counters.lookup scope with
  | none =>
      obtain ⟨inserted, hinsert⟩ : ∃ inserted,
          counters.insert? ⟨scope, now, 1⟩ = some inserted :=
        Table.exists_insert? hlookup
      refine ⟨_, rfl, ?_⟩
      rw [Table.insertOrIgnore, hinsert, Option.getD_some, Table.lookup_insert? hinsert,
        if_pos rfl]
  | some row =>
      rw [hlookup] at hopens
      have hover : row.windowStart.1 ≤ now.1 - window :=
        le_sub_iff_add_le.mpr (of_decide_eq_true hopens)
      have hcounted : row.counted now window =
          some { row with windowStart := now, count := 1 } := by
        rw [CounterRow.counted, if_neg (not_lt.mpr (row.windowStart.2.trans hover)),
          if_pos hover]
      have hscope : row.scope = scope := Table.key_of_lookup hlookup
      simp only [hcounted]
      refine ⟨_, rfl, ?_⟩
      rw [Table.lookup_modify, if_pos rfl, hlookup, Option.map_some, if_pos rfl, hscope]

/-- A call within a window is counted unless the statement fails. -/
theorem countRequest_within {window : ℤ} {row : CounterRow}
    (hlookup : counters.lookup scope = some row)
    (hwithin : restarts now window (some row) = false) :
    (∃ failure, countRequest now scope window counters = .error failure) ∨
      ∃ next, countRequest now scope window counters = .ok (row.count + 1, next) ∧
        next.lookup scope = some { row with count := row.count + 1 } := by
  have hrunning : ¬row.windowStart.1 ≤ now.1 - window := fun hover =>
    of_decide_eq_false hwithin (le_sub_iff_add_le.mp hover)
  rw [countRequest, hlookup]
  by_cases hrange : now.1 - window < earliestTime
  · exact .inl ⟨.database, by simp only [CounterRow.counted, if_pos hrange]⟩
  by_cases hfull : maxCount ≤ row.count
  · exact .inl ⟨.database, by
      simp only [CounterRow.counted, if_neg hrange, if_neg hrunning, if_pos hfull]⟩
  · right
    simp only [CounterRow.counted, if_neg hrange, if_neg hrunning, if_neg hfull]
    refine ⟨_, rfl, ?_⟩
    rw [Table.lookup_modify, if_pos rfl, hlookup, Option.map_some, if_pos rfl]

theorem countRequest_other {window : ℤ} {other : Bytes} {count : ℕ} {next : Counters}
    (hother : other ≠ scope)
    (hcount : countRequest now other window counters = .ok (count, next)) :
    next.lookup scope = counters.lookup scope := by
  rw [countRequest] at hcount
  split at hcount
  case h_1 hfree =>
    cases hcount
    obtain ⟨inserted, hinsert⟩ : ∃ inserted,
        counters.insert? ⟨other, now, 1⟩ = some inserted :=
      Table.exists_insert? hfree
    rw [Table.insertOrIgnore, hinsert, Option.getD_some, Table.lookup_insert? hinsert,
      if_neg (Ne.symm hother)]
  case h_2 row hlookup =>
    split at hcount
    · cases hcount
    · cases hcount
      rw [Table.lookup_modify, if_neg (Ne.symm hother)]

theorem checkRateLimit_of_valid (hvalid : Valid scope maximum windowSeconds) :
    checkRateLimit now scope maximum windowSeconds counters =
      match countRequest now scope (seconds windowSeconds) counters with
      | .error failure => (.error failure, counters)
      | .ok (count, counters) =>
          if maximum < count then (.error .unauthorized, counters)
          else (.ok (), counters) := by
  have hshort := hvalid.short
  have hmaximum := hvalid.maximum
  have hwindow := hvalid.window
  rw [checkRateLimit, if_neg]
  rintro (hempty | hinvalid)
  · exact hvalid.nonempty hempty
  · omega

/-- A call that opens a window is admitted. -/
theorem checkRateLimit_opening (hvalid : Valid scope maximum windowSeconds)
    (hopens : restarts now (seconds windowSeconds) (counters.lookup scope) = true) :
    (checkRateLimit now scope maximum windowSeconds counters).1 = .ok () ∧
      (checkRateLimit now scope maximum windowSeconds counters).2.lookup scope =
        some ⟨scope, now, 1⟩ := by
  obtain ⟨next, hcount, hnext⟩ := countRequest_opening hopens
  have hfirst : ¬maximum < ((1 : ℕ) : ℤ) := by
    have hmaximum := hvalid.maximum
    omega
  simp only [checkRateLimit_of_valid hvalid, hcount, if_neg hfirst]
  exact ⟨trivial, hnext⟩

/-- A call within a window is admitted when it is counted and the count does not
exceed the maximum. -/
theorem checkRateLimit_within (hvalid : Valid scope maximum windowSeconds)
    {row : CounterRow} (hlookup : counters.lookup scope = some row)
    (hwithin : restarts now (seconds windowSeconds) (some row) = false) :
    ((checkRateLimit now scope maximum windowSeconds counters).1.isOk = false ∧
      (checkRateLimit now scope maximum windowSeconds counters).2.lookup scope =
        some row) ∨
      (checkRateLimit now scope maximum windowSeconds counters).1.isOk =
          decide (row.count + 1 ≤ maximum.toNat) ∧
        (checkRateLimit now scope maximum windowSeconds counters).2.lookup scope =
          some { row with count := row.count + 1 } := by
  rcases countRequest_within hlookup hwithin with ⟨failure, hcount⟩ |
    ⟨next, hcount, hnext⟩
  · left
    simp only [checkRateLimit_of_valid hvalid, hcount]
    exact ⟨rfl, hlookup⟩
  · right
    simp only [checkRateLimit_of_valid hvalid, hcount]
    by_cases hexceeds : maximum < ((row.count + 1 : ℕ) : ℤ)
    · rw [if_pos hexceeds]
      refine ⟨(decide_eq_false (by omega)).symm, hnext⟩
    · rw [if_neg hexceeds]
      exact ⟨(decide_eq_true (by omega)).symm, hnext⟩

theorem seconds_pos (hvalid : Valid scope maximum windowSeconds) :
    0 < seconds windowSeconds := by
  have hwindow := hvalid.window
  unfold seconds
  omega

/-- The start of the window moves exactly when there is none or it is over. -/
theorem window_moves_iff (hvalid : Valid scope maximum windowSeconds) :
    windowOf scope (checkRateLimit now scope maximum windowSeconds counters).2 ≠
        windowOf scope counters ↔
      restarts now (seconds windowSeconds) (counters.lookup scope) = true := by
  cases hopens : restarts now (seconds windowSeconds) (counters.lookup scope) with
  | true =>
      have hstored := (checkRateLimit_opening hvalid hopens).2
      simp only [windowOf, hstored, Option.map_some, iff_true]
      cases hlookup : counters.lookup scope with
      | none => simp
      | some row =>
          rw [hlookup] at hopens
          have hover : row.windowStart.1 + seconds windowSeconds ≤ now.1 :=
            of_decide_eq_true hopens
          intro hsame
          have hstart : now = row.windowStart := Option.some.inj hsame
          rw [hstart] at hover
          exact absurd hover (not_le.mpr (lt_add_of_pos_right _ (seconds_pos hvalid)))
  | false =>
      simp only [Bool.false_eq_true, iff_false, not_not]
      cases hlookup : counters.lookup scope with
      | none =>
          rw [hlookup] at hopens
          cases hopens
      | some row =>
          rw [hlookup] at hopens
          rcases checkRateLimit_within hvalid hlookup hopens with
            ⟨-, hstored⟩ | ⟨-, hstored⟩
          · rw [windowOf, windowOf, hstored, hlookup]
          · rw [windowOf, windowOf, hstored, hlookup, Option.map_some, Option.map_some]

/-- Calls for other scopes do not touch the row. -/
theorem lookup_step_other {arrival : Arrival} (hother : arrival.scope ≠ scope) :
    (step maximum windowSeconds counters arrival).lookup scope =
      counters.lookup scope := by
  rw [step, checkRateLimit]
  split
  · rfl
  cases hcount : countRequest arrival.now arrival.scope (seconds windowSeconds)
      counters with
  | error failure => rfl
  | ok counted =>
      have hkept := countRequest_other hother hcount
      dsimp only
      split
      · exact hkept
      · exact hkept

end Calls

/-! ## Whole histories -/

section Histories

variable {scope : Bytes} {maximum windowSeconds : ℤ} {counters : Counters}
variable {arrival : Arrival} {arrivals : List Arrival}

/-- What is recorded of a call for the scope. -/
theorem history_own (hvalid : Valid scope maximum windowSeconds)
    (hown : arrival.scope = scope) :
    history scope maximum windowSeconds counters (arrival :: arrivals) =
      { time := arrival.now.1
        opens := restarts arrival.now (seconds windowSeconds) (counters.lookup scope)
        admitted := (checkRateLimit arrival.now scope maximum windowSeconds
          counters).1.isOk } ::
      history scope maximum windowSeconds
        (step maximum windowSeconds counters arrival) arrivals := by
  rw [history, recorded, if_pos hown, List.singleton_append]
  simp only [window_moves_iff hvalid, Bool.decide_eq_true]

theorem history_other (hother : arrival.scope ≠ scope) :
    history scope maximum windowSeconds counters (arrival :: arrivals) =
      history scope maximum windowSeconds
        (step maximum windowSeconds counters arrival) arrivals := by
  rw [history, recorded, if_neg hother, List.nil_append]

theorem time_of_mem_history {entry : Entry Time}
    (hentry : entry ∈ history scope maximum windowSeconds counters arrivals) :
    ∃ arrival ∈ arrivals, entry.time = arrival.now.1 := by
  induction arrivals generalizing counters with
  | nil => cases hentry
  | cons arrival arrivals ih =>
      rw [history, List.mem_append] at hentry
      rcases hentry with hfirst | hlater
      · refine ⟨arrival, List.mem_cons_self, ?_⟩
        unfold recorded at hfirst
        split at hfirst
        · rw [List.mem_singleton.mp hfirst]
        · cases hfirst
      · obtain ⟨found, hfound, htime⟩ := ih hlater
        exact ⟨found, List.mem_cons_of_mem arrival hfound, htime⟩

theorem ordered_history (hvalid : Valid scope maximum windowSeconds)
    (hordered : arrivals.Pairwise fun earlier later => earlier.now.1 ≤ later.now.1) :
    (history scope maximum windowSeconds counters arrivals).Pairwise
      fun earlier later => earlier.time ≤ later.time := by
  induction arrivals generalizing counters with
  | nil => exact List.Pairwise.nil
  | cons arrival arrivals ih =>
      rw [List.pairwise_cons] at hordered
      by_cases hown : arrival.scope = scope
      · rw [history_own hvalid hown, List.pairwise_cons]
        refine ⟨?_, ih hordered.2⟩
        intro later hlater
        obtain ⟨found, hfound, htime⟩ := time_of_mem_history hlater
        rw [htime]
        exact hordered.1 found hfound
      · rw [history_other hown]
        exact ih hordered.2

/-- What is left of the window of a stored row bounds the calls that are
admitted before the next window opens. -/
theorem admissions_le_rest (hvalid : Valid scope maximum windowSeconds)
    {row : CounterRow} (hlookup : counters.lookup scope = some row)
    {part after : List (Entry Time)}
    (hpart : history scope maximum windowSeconds counters arrivals = part ++ after)
    (hquiet : ∀ entry ∈ part, entry.opens = false) :
    admissions part ≤ maximum.toNat - row.count := by
  induction arrivals generalizing counters row part with
  | nil =>
      have hnil : part = [] := (List.append_eq_nil_iff.mp hpart.symm).1
      rw [hnil]
      exact Nat.zero_le _
  | cons arrival arrivals ih =>
      by_cases hown : arrival.scope = scope
      · rw [history_own hvalid hown] at hpart
        cases part with
        | nil => exact Nat.zero_le _
        | cons entry part =>
            rw [List.cons_append, List.cons.injEq] at hpart
            obtain ⟨rfl, hrest⟩ := hpart
            have hwithin := hquiet _ List.mem_cons_self
            dsimp only at hwithin
            rw [hlookup] at hwithin
            have hlater : ∀ later ∈ part, later.opens = false := fun later hmem =>
              hquiet later (List.mem_cons_of_mem _ hmem)
            rw [admissions, List.countP_cons]
            rw [step, hown] at hrest
            rcases checkRateLimit_within hvalid hlookup hwithin with
              ⟨hrefused, hstored⟩ | ⟨hcounted, hstored⟩
            · have hbound := ih hstored hrest hlater
              simp only [hrefused]
              exact hbound
            · have hbound := ih hstored hrest hlater
              dsimp only [admissions] at hbound
              simp only [hcounted, decide_eq_true_eq]
              split <;> omega
      · rw [history_other hown] at hpart
        exact ih ((lookup_step_other hown).trans hlookup) hpart hquiet

/-- From one opening to the next at most `maximum` calls are admitted. -/
theorem limited_history (hvalid : Valid scope maximum windowSeconds) :
    LimitedWindows maximum.toNat
      (history scope maximum windowSeconds counters arrivals) := by
  induction arrivals generalizing counters with
  | nil =>
      intro before part after hlog hquiet
      have hnil : part = [] :=
        (List.append_eq_nil_iff.mp (List.append_eq_nil_iff.mp hlog.symm).1).2
      rw [hnil]
      exact Nat.zero_le _
  | cons arrival arrivals ih =>
      by_cases hown : arrival.scope = scope
      · rw [history_own hvalid hown]
        apply limitedWindows_cons ih
        intro part after hpart hquiet
        cases hopens : restarts arrival.now (seconds windowSeconds)
            (counters.lookup scope) with
        | false =>
            -- The window was open before, so the stored row bounds its rest.
            obtain ⟨row, hlookup⟩ : ∃ row, counters.lookup scope = some row := by
              cases hlookup : counters.lookup scope with
              | none =>
                  rw [hlookup] at hopens
                  cases hopens
              | some row => exact ⟨row, rfl⟩
            have hall : ∀ entry ∈ part, entry.opens = false := by
              cases part with
              | nil => simp
              | cons entry part =>
                  rw [List.cons_append, List.cons.injEq] at hpart
                  intro later hlater
                  rcases List.mem_cons.mp hlater with rfl | hmem
                  · rw [← hpart.1]
                    exact hopens
                  · exact hquiet later hmem
            exact (admissions_le_rest hvalid hlookup ((history_own hvalid hown).trans hpart) hall).trans
              (Nat.sub_le _ _)
        | true =>
            cases part with
            | nil => exact Nat.zero_le _
            | cons entry part =>
                rw [List.cons_append, List.cons.injEq] at hpart
                obtain ⟨hadmitted, hstored⟩ := checkRateLimit_opening hvalid hopens
                have hrest := hpart.2
                rw [step, hown] at hrest
                have hbound := admissions_le_rest hvalid hstored hrest hquiet
                have hmaximum := hvalid.maximum
                dsimp only [admissions] at hbound ⊢
                rw [List.countP_cons]
                split <;> omega
      · rw [history_other hown]
        exact ih

/-- Windows that open later do so after the end of the stored one. -/
theorem opens_after_window (hvalid : Valid scope maximum windowSeconds)
    {row : CounterRow} (hlookup : counters.lookup scope = some row)
    {entry : Entry Time}
    (hentry : entry ∈ history scope maximum windowSeconds counters arrivals)
    (hopens : entry.opens = true) :
    row.windowStart.1 + seconds windowSeconds ≤ entry.time := by
  induction arrivals generalizing counters row with
  | nil => cases hentry
  | cons arrival arrivals ih =>
      by_cases hown : arrival.scope = scope
      swap
      · rw [history_other hown] at hentry
        exact ih ((lookup_step_other hown).trans hlookup) hentry
      rw [history_own hvalid hown, List.mem_cons, step, hown, hlookup] at hentry
      cases hrestarts : restarts arrival.now (seconds windowSeconds) (some row) with
      | true =>
          have hover : row.windowStart.1 + seconds windowSeconds ≤ arrival.now.1 :=
            of_decide_eq_true hrestarts
          rcases hentry with rfl | hlater
          · exact hover
          rw [← hlookup] at hrestarts
          have hstored := (checkRateLimit_opening hvalid hrestarts).2
          calc row.windowStart.1 + seconds windowSeconds
              ≤ arrival.now.1 := hover
            _ ≤ arrival.now.1 + seconds windowSeconds :=
                le_add_of_nonneg_right (seconds_pos hvalid).le
            _ ≤ entry.time := ih hstored hlater
      | false =>
          rcases hentry with rfl | hlater
          · rw [hrestarts] at hopens
            cases hopens
          rcases checkRateLimit_within hvalid hlookup hrestarts with
            ⟨-, hstored⟩ | ⟨-, hstored⟩
          · exact ih hstored hlater
          · have hafter := ih hstored hlater
            exact hafter

/-- Consecutive windows open at least a window apart. -/
theorem spaced_history (hvalid : Valid scope maximum windowSeconds) :
    Spaced (seconds windowSeconds)
      (history scope maximum windowSeconds counters arrivals) := by
  induction arrivals generalizing counters with
  | nil => exact List.Pairwise.nil
  | cons arrival arrivals ih =>
      by_cases hown : arrival.scope = scope
      swap
      · rw [history_other hown]
        exact ih
      rw [history_own hvalid hown, Spaced, List.filter_cons]
      split
      case isFalse => exact ih
      case isTrue hopens =>
        refine List.pairwise_cons.mpr ⟨?_, ih⟩
        intro later hlater
        obtain ⟨hmem, hagain⟩ := List.mem_filter.mp hlater
        have hstored := (checkRateLimit_opening hvalid hopens).2
        rw [step, hown] at hmem
        exact opens_after_window hvalid hstored hmem hagain

/-- Between two resets at most `maximum` calls are admitted, windows are at least
`windowSeconds` apart, any `windowSeconds` admit at most twice the maximum, and once
the current window is over a call is admitted, whatever was refused before. -/
theorem rate_limit_bounds (hvalid : Valid scope maximum windowSeconds)
    (hordered : arrivals.Pairwise fun earlier later => earlier.now.1 ≤ later.now.1) :
    let log := history scope maximum windowSeconds counters arrivals
    let reached := run (step maximum windowSeconds) counters arrivals
    LimitedWindows maximum.toNat log ∧
      (∀ start ∈ windowOf scope counters, ∀ entry ∈ log, entry.opens = true →
        start.1 + seconds windowSeconds ≤ entry.time) ∧
      Spaced (seconds windowSeconds) log ∧
      (∀ start, admissions (span start (seconds windowSeconds) log) ≤
        2 * maximum.toNat) ∧
      ∀ start ∈ windowOf scope reached, ∀ now : Timestamp,
        start.1 + seconds windowSeconds ≤ now.1 →
          (checkRateLimit now scope maximum windowSeconds reached).1 = .ok () := by
  refine ⟨limited_history hvalid, ?_, spaced_history hvalid, ?_, ?_⟩
  · intro start hstart entry hentry hopens
    obtain ⟨row, hlookup, rfl⟩ := Option.map_eq_some_iff.mp hstart
    exact opens_after_window hvalid hlookup hentry hopens
  · intro start
    exact admissions_span_le (ordered_history hvalid hordered) (seconds_pos hvalid).le
      (limited_history hvalid) (spaced_history hvalid) start
  · intro start hstart now hover
    obtain ⟨row, hlookup, rfl⟩ := Option.map_eq_some_iff.mp hstart
    have hopens : restarts now (seconds windowSeconds)
        ((run (step maximum windowSeconds) counters arrivals).lookup scope) = true := by
      rw [hlookup]
      exact decide_eq_true hover
    exact (checkRateLimit_opening hvalid hopens).1

end Histories

/-- Two calls a second: the third is refused, the fourth opens a window. -/
def burst : List Arrival :=
  [⟨⟨0, by decide⟩, [7]⟩, ⟨⟨900000, by decide⟩, [7]⟩, ⟨⟨950000, by decide⟩, [7]⟩,
    ⟨⟨1000000, by decide⟩, [7]⟩, ⟨⟨1100000, by decide⟩, [7]⟩]

theorem burst_bounded :
    admissions (span 900000 (seconds 1) (history [7] 2 1 Table.empty burst)) = 3 ∧
      admissions (span 900000 (seconds 1) (history [7] 2 1 Table.empty burst)) ≤
        2 * Int.toNat 2 := by
  have hvalid : Valid [7] 2 1 :=
    { nonempty := by decide, short := by decide, maximum := by decide,
      window := by decide }
  have hordered : burst.Pairwise fun earlier later =>
      earlier.now.1 ≤ later.now.1 := by decide +kernel
  exact ⟨by decide +kernel, (rate_limit_bounds hvalid hordered).2.2.2.1 900000⟩

end ResilientMessenger.RateLimits
