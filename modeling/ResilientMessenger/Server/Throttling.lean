import ResilientMessenger.Server.LongPolls

/-!
# Frames that are refused

All frames are counted in one table, under their message id.
`limits_are_separate` says that the table is as good as a counter for every id:
whatever else is sent to the server, the frames of an id pass or are refused as
if they were the only ones.  With that, the bound of a single counter holds at the
endpoint: `frames_throttled`.
-/

namespace ResilientMessenger.Throttling

open ResilientMessenger.ByteCodec
open ResilientMessenger.Frames
open ResilientMessenger.Identity
open ResilientMessenger.Schema
open ResilientMessenger.Endpoint
open ResilientMessenger.RateLimits (Counters Timestamp checkRateLimit countRequest Arrival
  Valid history)
open ResilientMessenger.Runs
open ResilientMessenger.Windows

/-- When a frame is counted and whether it passes. -/
structure Verdict where
  now : Timestamp
  passed : Bool
  deriving DecidableEq

/-- The task has been answered that there are too many requests. -/
def limited : Option Task → Bool
  | some ⟨_, _, .answered response⟩ => response.status = .tooManyRequests
  | _ => false

/-- The verdict that a label brings for a frame with this id: it passes unless it is
answered that there are too many. -/
def verdictOf (clientMessageId : Id16) (app : App) : Label → Option Verdict
  | .count id now =>
      match app.tasks id with
      | some ⟨_, _, .decoded frame⟩ =>
          if frame.clientMessageId = clientMessageId then
            some ⟨now, !limited ((app.count id now).tasks id)⟩
          else none
      | _ => none
  | _ => none

/-- The verdicts on frames of one id that are counted at these times, when there
is nothing else. -/
def verdicts (clientMessageId : Id16) : Counters → List Timestamp → List Verdict
  | _, [] => []
  | counters, now :: later =>
      let answer := checkRateLimit now (App.rateScope clientMessageId) 120 60 counters
      ⟨now, answer.1.isOk⟩ :: verdicts clientMessageId answer.2 later

/-! ## The counter of one id -/

section Counters

variable {scope : Bytes} {left right : Counters}

theorem countRequest_congr (now : Timestamp) (window : ℤ)
    (hsame : left.lookup scope = right.lookup scope) :
    (∃ failure, countRequest now scope window left = .error failure ∧
        countRequest now scope window right = .error failure) ∨
      ∃ count next next', countRequest now scope window left = .ok (count, next) ∧
        countRequest now scope window right = .ok (count, next') ∧
        next.lookup scope = next'.lookup scope := by
  unfold countRequest
  rw [← hsame]
  cases hlookup : left.lookup scope with
  | none =>
      right
      refine ⟨1, _, _, rfl, rfl, ?_⟩
      have hfree : right.lookup scope = none := by rw [← hsame, hlookup]
      obtain ⟨inserted, hinsert⟩ : ∃ inserted,
          left.insert? ⟨scope, now, 1⟩ = some inserted := Table.exists_insert? hlookup
      obtain ⟨inserted', hinsert'⟩ : ∃ inserted,
          right.insert? ⟨scope, now, 1⟩ = some inserted := Table.exists_insert? hfree
      rw [Table.insertOrIgnore, Table.insertOrIgnore, hinsert, hinsert',
        Option.getD_some, Option.getD_some, Table.lookup_insert? hinsert,
        Table.lookup_insert? hinsert', if_pos rfl, if_pos rfl]
  | some row =>
      dsimp only
      cases row.counted now window with
      | none => exact .inl ⟨.database, rfl, rfl⟩
      | some next =>
          right
          refine ⟨next.count, _, _, rfl, rfl, ?_⟩
          rw [Table.lookup_modify, Table.lookup_modify, if_pos rfl, if_pos rfl, hsame]

/-- The verdict depends on the row of the scope only, and so does the row after
it. -/
theorem checkRateLimit_congr (now : Timestamp) (maximum windowSeconds : ℤ)
    (hsame : left.lookup scope = right.lookup scope) :
    (checkRateLimit now scope maximum windowSeconds left).1 =
        (checkRateLimit now scope maximum windowSeconds right).1 ∧
      (checkRateLimit now scope maximum windowSeconds left).2.lookup scope =
        (checkRateLimit now scope maximum windowSeconds right).2.lookup scope := by
  unfold checkRateLimit
  split
  · exact ⟨rfl, hsame⟩
  rcases countRequest_congr now (seconds windowSeconds) hsame with
    ⟨failure, hleft, hright⟩ | ⟨count, next, next', hleft, hright, hnext⟩
  · rw [hleft, hright]
    exact ⟨rfl, hsame⟩
  · rw [hleft, hright]
    dsimp only
    split
    · exact ⟨rfl, hnext⟩
    · exact ⟨rfl, hnext⟩

end Counters

/-- The counters after these frames of one id. -/
def tally (clientMessageId : Id16) (counters : Counters) (times : List Timestamp) :
    Counters :=
  run (RateLimits.step 120 60) counters
    (times.map fun now => ⟨now, App.rateScope clientMessageId⟩)

theorem verdicts_concat (clientMessageId : Id16) (counters : Counters)
    (times : List Timestamp) (now : Timestamp) :
    verdicts clientMessageId counters (times ++ [now]) =
      verdicts clientMessageId counters times ++
        [⟨now, (checkRateLimit now (App.rateScope clientMessageId) 120 60
          (tally clientMessageId counters times)).1.isOk⟩] := by
  induction times generalizing counters with
  | nil => rfl
  | cons first times ih =>
      simp only [List.cons_append, verdicts]
      rw [ih]
      rfl

theorem rateScope_injective {left right : Id16}
    (hsame : App.rateScope left = App.rateScope right) : left = right :=
  List.Vector.toList_injective (List.append_cancel_left hsame)

/-! ## The counters under the handler -/

/-- The arrival that a label counts. -/
def countedOf (app : App) : Label → Option Arrival
  | .count id now =>
      match app.tasks id with
      | some ⟨_, _, .decoded frame⟩ => some ⟨now, App.rateScope frame.clientMessageId⟩
      | _ => none
  | _ => none

theorem countedOf_count_none {app : App} {id : ℕ} {now : Timestamp}
    (hdecoded : ¬∃ longPoll input frame,
      app.tasks id = some ⟨longPoll, input, .decoded frame⟩) :
    countedOf app (.count id now) = none := by
  simp only [countedOf]
  split
  case h_1 longPoll input frame htask =>
    exact absurd ⟨longPoll, input, frame, htask⟩ hdecoded
  case h_2 => rfl

theorem counters_step (crypto : Crypto) (app : App) (label : Label) :
    (step crypto app label).counters =
      (countedOf app label).elim app.counters (RateLimits.step 120 60 app.counters) := by
  cases label with
  | arrive id longPoll input =>
      simp only [step, App.arrive, countedOf]
      split
      · rfl
      · split
        · rfl
        · split <;> rfl
  | count id now =>
      simp only [step]
      by_cases hdecoded : ∃ longPoll input frame,
          app.tasks id = some ⟨longPoll, input, .decoded frame⟩
      · obtain ⟨longPoll, input, frame, htask⟩ := hdecoded
        simp only [App.count, countedOf, htask, Option.elim_some, RateLimits.step]
        rcases checkRateLimit now (App.rateScope frame.clientMessageId) 120 60
          app.counters with ⟨failure | done, counters⟩
        · rfl
        · dsimp only
          split
          · split <;> rfl
          · rfl
      · rw [countedOf_count_none hdecoded]
        unfold App.count
        split
        case h_1 longPoll input frame htask =>
          exact absurd ⟨longPoll, input, frame, htask⟩ hdecoded
        case h_2 => rfl
  | listen id granted =>
      simp only [step, App.listen, countedOf]
      split <;> rfl
  | dispatch id moment =>
      simp only [step, countedOf]
      cases hdispatched : app.dispatched id with
      | none =>
          rw [dispatchTask_of_idle moment hdispatched]
          rfl
      | some pending =>
          obtain ⟨frame, listener⟩ := pending
          obtain ⟨task, htask, hpending⟩ := Option.bind_eq_some_iff.mp hdispatched
          rw [dispatchTask_of_pending moment htask hpending]
          split <;> rfl
  | wake id timeout =>
      simp only [step, App.wake, countedOf]
      split
      · split <;> rfl
      · rfl
  | connection id connected kept =>
      simp only [step, App.connection, countedOf]
      split <;> rfl
  | cleanup now batch scan => rfl
  | revoke now deviceId => rfl

/-- A frame passes when the check of the limit succeeds. -/
theorem limited_count {app : App} {id : ℕ} {longPoll : Bool} {input : Bytes}
    {frame : TransportFrame} (now : Timestamp)
    (htask : app.tasks id = some ⟨longPoll, input, .decoded frame⟩) :
    (!limited ((app.count id now).tasks id)) =
      (checkRateLimit now (App.rateScope frame.clientMessageId) 120 60
        app.counters).1.isOk := by
  simp only [App.count, htask]
  rcases checkRateLimit now (App.rateScope frame.clientMessageId) 120 60
    app.counters with ⟨failure | done, counters⟩
  · simp [limited, errorResponse, Except.isOk, Except.toBool]
  · cases longPoll with
    | false => simp [limited, Except.isOk, Except.toBool]
    | true =>
        by_cases hkind : frame.kind = .syncRequest
        · simp [limited, hkind, Except.isOk, Except.toBool]
        · simp [limited, errorResponse, hkind, Except.isOk, Except.toBool]

/-- A verdict is given when the frame is counted. -/
theorem verdictOf_eq (clientMessageId : Id16) (app : App) (label : Label) :
    verdictOf clientMessageId app label =
      (countedOf app label).bind fun arrival =>
        if arrival.scope = App.rateScope clientMessageId then
          some ⟨arrival.now, (checkRateLimit arrival.now
            (App.rateScope clientMessageId) 120 60 app.counters).1.isOk⟩
        else none := by
  cases label with
  | count id now =>
      simp only [verdictOf, countedOf]
      split
      case h_1 longPoll input frame htask =>
        rw [Option.bind_some, limited_count now htask]
        by_cases hsame : frame.clientMessageId = clientMessageId
        · rw [if_pos hsame, if_pos (by rw [hsame]), hsame]
        · rw [if_neg hsame, if_neg fun hscope => hsame (rateScope_injective hscope)]
      case h_2 => rfl
  | _ => rfl

/-- The invariant behind it: the row of the id is the one a counter of its own
would have. -/
theorem separate_run (crypto : Crypto) (labels : List Label) (clientMessageId : Id16) :
    picked (step crypto) (verdictOf clientMessageId) App.start labels =
        verdicts clientMessageId Table.empty
          ((picked (step crypto) (verdictOf clientMessageId) App.start labels).map
            Verdict.now) ∧
      (run (step crypto) App.start labels).counters.lookup
          (App.rateScope clientMessageId) =
        (tally clientMessageId Table.empty
          ((picked (step crypto) (verdictOf clientMessageId) App.start labels).map
            Verdict.now)).lookup (App.rateScope clientMessageId) := by
  induction labels using List.reverseRecOn with
  | nil => exact ⟨rfl, rfl⟩
  | append_singleton labels label ih =>
      obtain ⟨hverdicts, hrow⟩ := ih
      rw [picked_concat, run_append, run_cons, run_nil, counters_step, verdictOf_eq]
      generalize run (step crypto) App.start labels = app at hrow ⊢
      generalize picked (step crypto) (verdictOf clientMessageId) App.start labels =
        given at hverdicts hrow ⊢
      cases countedOf app label with
      | none => simpa using ⟨hverdicts, hrow⟩
      | some arrival =>
          rw [Option.bind_some, Option.elim_some]
          split
          case isTrue hscope =>
            obtain ⟨hverdict, hnext⟩ := checkRateLimit_congr arrival.now 120 60 hrow
            rw [Option.toList_some, List.map_append, List.map_singleton,
              verdicts_concat, ← hverdicts]
            refine ⟨by rw [hverdict], ?_⟩
            rw [RateLimits.step, hscope, hnext, tally, tally, List.map_append,
              run_append]
            rfl
          case isFalse hother =>
            rw [Option.toList_none, List.append_nil]
            refine ⟨hverdicts, ?_⟩
            rw [RateLimits.lookup_step_other hother]
            exact hrow

/-- In every interleaving with any other requests, the frames of one message id
pass or are refused as if there were no others. -/
theorem limits_are_separate (crypto : Crypto) (labels : List Label)
    (clientMessageId : Id16) :
    picked (step crypto) (verdictOf clientMessageId) App.start labels =
      verdicts clientMessageId Table.empty
        ((picked (step crypto) (verdictOf clientMessageId) App.start labels).map
          Verdict.now) :=
  (separate_run crypto labels clientMessageId).1

/-! ## How many frames pass -/

theorem valid_rateScope (clientMessageId : Id16) :
    Valid (App.rateScope clientMessageId) 120 60 where
  nonempty := by
    rw [App.rateScope]
    exact List.append_ne_nil_of_left_ne_nil (by decide) _
  short := by
    rw [App.rateScope, List.length_append, List.Vector.toList_length]
    decide
  maximum := by decide
  window := by decide

/-- The verdicts are what is recorded of a scope that is alone. -/
theorem history_eq_verdicts (clientMessageId : Id16) (counters : Counters)
    (times : List Timestamp) :
    (history (App.rateScope clientMessageId) 120 60 counters
        (times.map fun now => ⟨now, App.rateScope clientMessageId⟩)).map
        (fun entry => (entry.time, entry.admitted)) =
      (verdicts clientMessageId counters times).map
        fun verdict => (verdict.now.1, verdict.passed) := by
  induction times generalizing counters with
  | nil => rfl
  | cons now times ih =>
      rw [List.map_cons, RateLimits.history_own (valid_rateScope clientMessageId) rfl,
        List.map_cons, ih]
      rfl

/-- The frame passes within the span of a minute from `start` on. -/
def passedWithin (start : Time) (verdict : Verdict) : Bool :=
  verdict.passed && decide (start ≤ verdict.now.1 ∧ verdict.now.1 < start + seconds 60)

theorem passed_eq_admissions (clientMessageId : Id16) (counters : Counters)
    (times : List Timestamp) (start : Time) :
    (verdicts clientMessageId counters times).countP (passedWithin start) =
      admissions (span start (seconds 60) (history (App.rateScope clientMessageId) 120 60
        counters (times.map fun now => ⟨now, App.rateScope clientMessageId⟩))) := by
  let within : Time × Bool → Bool := fun pair =>
    pair.2 && decide (start ≤ pair.1 ∧ pair.1 < start + seconds 60)
  calc (verdicts clientMessageId counters times).countP (passedWithin start)
      = ((verdicts clientMessageId counters times).map
          fun verdict => (verdict.now.1, verdict.passed)).countP within := by
        rw [List.countP_map]
        rfl
    _ = ((history (App.rateScope clientMessageId) 120 60 counters
          (times.map fun now => ⟨now, App.rateScope clientMessageId⟩)).map
          fun entry => (entry.time, entry.admitted)).countP within := by
        rw [history_eq_verdicts]
    _ = admissions (span start (seconds 60) (history (App.rateScope clientMessageId) 120 60
        counters (times.map fun now => ⟨now, App.rateScope clientMessageId⟩))) := by
        rw [List.countP_map, admissions, span, List.countP_filter]
        rfl

/-- Of the frames of one message id at most 240 pass within any minute, whatever
else is sent, if the clock does not go back between them. -/
theorem frames_throttled (crypto : Crypto) (labels : List Label) (clientMessageId : Id16)
    (hordered : (picked (step crypto) (verdictOf clientMessageId) App.start
      labels).Pairwise fun earlier later => earlier.now.1 ≤ later.now.1)
    (start : Time) :
    (picked (step crypto) (verdictOf clientMessageId) App.start labels).countP
      (passedWithin start) ≤ 240 := by
  have hvalid := valid_rateScope clientMessageId
  rw [(separate_run crypto labels clientMessageId).1, passed_eq_admissions]
  apply admissions_span_le _ (RateLimits.seconds_pos hvalid).le
    (RateLimits.limited_history hvalid) (RateLimits.spaced_history hvalid)
  apply RateLimits.ordered_history hvalid
  rw [List.map_map]
  exact List.pairwise_map.mpr hordered

theorem quiet_poll_throttled :
    (picked (step Responses.sessionCrypto) (verdictOf (FixedBytes.fill 16 9)) App.start
        LongPolls.quietPoll).length = 5 ∧
      (picked (step Responses.sessionCrypto) (verdictOf (FixedBytes.fill 16 9)) App.start
        LongPolls.quietPoll).countP (passedWithin 0) ≤ 240 :=
  ⟨by decide +kernel, frames_throttled Responses.sessionCrypto LongPolls.quietPoll
    (FixedBytes.fill 16 9) (by decide +kernel) 0⟩

end ResilientMessenger.Throttling
