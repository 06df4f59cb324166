import Mathlib.Data.List.Perm.Subperm
import ResilientMessenger.Core.Runs
import ResilientMessenger.Core.Table

/-!
# Items that are handed out once

A table of items and the transactions that fetch from it.  A fetch takes a
snapshot, locks the items it chooses among those that no other fetch has locked
(`FOR UPDATE SKIP LOCKED`) and whose latest committed version is still
unconsumed, marks them one by one and commits.  Locks make the chosen items
stay as they are until the commit, so no item is handed out twice, and
insertions that ignore a taken key never bring an item back.
-/

namespace ResilientMessenger.Mailbox

/-- What the rows of a table say about consumption, and which of them answer a
request: `select` is the `ORDER BY` and the `LIMIT` of the query, `eligible`
its condition. -/
structure Handout {ρ κ : Type} (key : ρ → κ) (Q γ : Type) where
  consumed : ρ → Bool
  content : ρ → γ
  eligible : Q → ρ → Bool
  select : Q → List ρ → List ρ
  consume : Q → ρ → ρ
  key_consume : ∀ request row, key (consume request row) = key row
  content_consume : ∀ request row, content (consume request row) = content row
  consumed_consume : ∀ request row, consumed (consume request row) = true
  select_subperm : ∀ request rows, (select request rows).Subperm rows

/-- How far a fetch has come: the rows it has seen, then the rows it has locked
and how many of them are still to be marked. -/
inductive Progress (ρ : Type) where
  | started
  | read (snapshot : List ρ)
  | locked (rows : List ρ) (unmarked : ℕ)
  deriving DecidableEq

structure Fetch (ρ Q : Type) where
  transaction : ℕ
  request : Q
  progress : Progress ρ
  deriving DecidableEq

structure Answer (ρ Q : Type) where
  request : Q
  rows : List ρ
  deriving DecidableEq

/-- The fetches in flight and the answers given. -/
structure Desk (ρ Q : Type) where
  fetches : Table (Fetch.transaction : Fetch ρ Q → ℕ)
  returned : List (Answer ρ Q)

def Desk.initial {ρ Q : Type} : Desk ρ Q := ⟨Table.empty, []⟩

/-- A desk together with the committed table it serves. -/
structure State {ρ κ : Type} (key : ρ → κ) (Q : Type) extends Desk ρ Q where
  stored : Table key

inductive Label (Q : Type) where
  | start (transaction : ℕ) (request : Q)
  | proceed (transaction : ℕ)
  | abort (transaction : ℕ)

def Progress.snapshot {ρ : Type} : Progress ρ → List ρ
  | .read snapshot => snapshot
  | _ => []

def Progress.rows {ρ : Type} : Progress ρ → List ρ
  | .locked rows _ => rows
  | _ => []

section System

variable {ρ κ Q γ : Type} {key : ρ → κ} [DecidableEq κ]

namespace State

def reach (state : State key Q) (transaction : ℕ) (progress : Progress ρ) :
    State key Q :=
  { state with
    fetches := state.fetches.modify transaction (fun _ => true)
      (fun fetch => { fetch with progress }) fun _ => rfl }

def finish (state : State key Q) (transaction : ℕ) : State key Q :=
  { state with fetches := state.fetches.erase transaction }

/-- A row locked by another fetch. -/
def lockedByOther (state : State key Q) (transaction : ℕ) (row : ρ) : Bool :=
  state.fetches.rows.any fun other =>
    other.transaction ≠ transaction ∧
      (other.progress.rows.any fun held => key held = key row) = true

/-- The latest versions of the rows of a snapshot, without those that have been
consumed since and those that are locked. -/
def candidates (handout : Handout key Q γ) (state : State key Q)
    (transaction : ℕ) (snapshot : List ρ) : List ρ :=
  snapshot.filterMap fun row =>
    (state.stored.lookup (key row)).filter fun latest =>
      !handout.consumed latest && !state.lockedByOther transaction latest

/-- Commit the marks and return the rows. -/
def commit (handout : Handout key Q γ) (state : State key Q)
    (fetch : Fetch ρ Q) (rows : List ρ) : State key Q where
  stored := state.stored.update
    (fun row => rows.any fun taken => key taken = key row)
    (handout.consume fetch.request) (handout.key_consume fetch.request)
  fetches := state.fetches.erase fetch.transaction
  returned := state.returned ++ [⟨fetch.request, rows⟩]

def proceed (handout : Handout key Q γ) (state : State key Q)
    (fetch : Fetch ρ Q) : State key Q :=
  match fetch.progress with
  | .started => state.reach fetch.transaction (.read state.stored.rows)
  | .read snapshot =>
      let rows := handout.select fetch.request
        ((state.candidates handout fetch.transaction snapshot).filter
          (handout.eligible fetch.request))
      state.reach fetch.transaction (.locked rows rows.length)
  | .locked rows (unmarked + 1) =>
      state.reach fetch.transaction (.locked rows unmarked)
  | .locked rows 0 => state.commit handout fetch rows

/-- `INSERT … ON CONFLICT DO NOTHING`. -/
def insert (state : State key Q) (row : ρ) : State key Q :=
  { state with stored := state.stored.insertOrIgnore row }

end State

def step (handout : Handout key Q γ) (state : State key Q) :
    Label Q → State key Q
  | .start transaction request =>
      { state with
        fetches := state.fetches.insertOrIgnore
          ⟨transaction, request, .started⟩ }
  | .proceed transaction =>
      match state.fetches.lookup transaction with
      | none => state
      | some fetch => state.proceed handout fetch
  | .abort transaction => state.finish transaction

/-! ## The invariant -/

/-- The rows a fetch has locked are distinct, answer its request and are still
stored as it read them. -/
structure Holds (handout : Handout key Q γ) (state : State key Q) (request : Q)
    (progress : Progress ρ) : Prop where
  snapshot : (progress.snapshot.map key).Nodup
  distinct : (progress.rows.map key).Nodup
  eligible : ∀ row ∈ progress.rows, handout.eligible request row = true
  latest : ∀ row ∈ progress.rows, state.stored.lookup (key row) = some row ∧
    handout.consumed row = false

/-- The row stands consumed in the table with the content it was returned
with. -/
def Spent (handout : Handout key Q γ) (stored : Table key) (row : ρ) : Prop :=
  ∃ latest, stored.lookup (key row) = some latest ∧
    handout.consumed latest = true ∧ handout.content latest = handout.content row

/-- The rows returned so far, in the order they were returned. -/
def handedOut (state : State key Q) : List ρ := state.returned.flatMap Answer.rows

structure Inv (handout : Handout key Q γ) (state : State key Q) : Prop where
  holds : ∀ transaction fetch, state.fetches.lookup transaction = some fetch →
    Holds handout state fetch.request fetch.progress
  exclusive : ∀ transaction other fetch rival,
    state.fetches.lookup transaction = some fetch →
    state.fetches.lookup other = some rival →
      ∀ row ∈ fetch.progress.rows, ∀ held ∈ rival.progress.rows,
        key held = key row → other = transaction
  eligible : ∀ answer ∈ state.returned, ∀ row ∈ answer.rows,
    handout.eligible answer.request row = true
  spent : ∀ row ∈ handedOut state, Spent handout state.stored row
  once : ((handedOut state).map key).Nodup

/-- Every stored row is still stored with its content, and consumed if it
was. -/
def Kept (handout : Handout key Q γ) (earlier later : State key Q) : Prop :=
  ∀ k row, earlier.stored.lookup k = some row →
    ∃ latest, later.stored.lookup k = some latest ∧
      handout.content latest = handout.content row ∧
      (handout.consumed row = true → handout.consumed latest = true)

variable {handout : Handout key Q γ} {state : State key Q}

theorem holds_started (request : Q) :
    Holds handout state request .started where
  snapshot := List.nodup_nil
  distinct := List.nodup_nil
  eligible row hrow := by cases hrow
  latest row hrow := by cases hrow

theorem inv_initial (stored : Table key) :
    Inv handout { Desk.initial with stored } where
  holds := by
    intro transaction fetch hfetch
    cases hfetch
  exclusive := by
    intro transaction other fetch rival hfetch
    cases hfetch
  eligible := by
    intro answer hanswer
    cases hanswer
  spent := by
    intro row hrow
    cases hrow
  once := List.nodup_nil

/-! ## Choosing and locking -/

theorem candidates_keys (transaction : ℕ) (snapshot : List ρ) :
    ((state.candidates handout transaction snapshot).map key).Sublist
      (snapshot.map key) := by
  unfold State.candidates
  induction snapshot with
  | nil => exact List.Sublist.slnil
  | cons row snapshot ih =>
      rw [List.filterMap_cons]
      split
      case h_1 => exact ih.cons _
      case h_2 latest hlatest =>
        rw [Option.filter_eq_some_iff] at hlatest
        rw [List.map_cons, List.map_cons, Table.key_of_lookup hlatest.1]
        exact ih.cons_cons _

theorem mem_candidates {transaction : ℕ} {snapshot : List ρ} {row : ρ}
    (hrow : row ∈ state.candidates handout transaction snapshot) :
    state.stored.lookup (key row) = some row ∧ handout.consumed row = false ∧
      state.lockedByOther transaction row = false := by
  obtain ⟨seen, -, hlatest⟩ := List.mem_filterMap.mp hrow
  rw [Option.filter_eq_some_iff] at hlatest
  obtain ⟨hlookup, hfree⟩ := hlatest
  rw [Table.key_of_lookup hlookup]
  exact ⟨hlookup, by simpa using hfree⟩

omit [DecidableEq κ] in
theorem nodup_of_subperm {left right : List ρ} (hsub : left.Subperm right)
    (hnodup : (right.map key).Nodup) : (left.map key).Nodup := by
  obtain ⟨between, hperm, hsublist⟩ := hsub
  exact (hperm.map key).nodup_iff.mp (hnodup.sublist (hsublist.map key))

/-- The rows a fetch chooses from its snapshot. -/
theorem holds_chosen {transaction : ℕ} {request : Q} {snapshot : List ρ}
    (hsnapshot : (snapshot.map key).Nodup) (unmarked : ℕ) :
    Holds handout state request (.locked (handout.select request
      ((state.candidates handout transaction snapshot).filter
        (handout.eligible request))) unmarked) where
  snapshot := List.nodup_nil
  distinct := by
    apply nodup_of_subperm (handout.select_subperm request _)
    apply List.Nodup.sublist (List.filter_sublist.map key)
    exact hsnapshot.sublist (candidates_keys transaction snapshot)
  eligible := by
    intro row hrow
    have hchosen := (handout.select_subperm request _).subset hrow
    exact (List.mem_filter.mp hchosen).2
  latest := by
    intro row hrow
    have hchosen := (handout.select_subperm request _).subset hrow
    have hcandidate := mem_candidates (List.mem_filter.mp hchosen).1
    exact ⟨hcandidate.1, hcandidate.2.1⟩

/-- The complete list of ways a fetch can proceed. -/
theorem proceed_cases {transaction : ℕ} {fetch : Fetch ρ Q}
    (hinv : Inv handout state)
    (hfetch : state.fetches.lookup transaction = some fetch) :
    (∃ progress, Holds handout state fetch.request progress ∧
      (∀ row ∈ progress.rows, row ∈ fetch.progress.rows ∨
        state.lockedByOther transaction row = false) ∧
      state.proceed handout fetch = state.reach transaction progress) ∨
    ∃ rows, fetch.progress = .locked rows 0 ∧
      state.proceed handout fetch = state.commit handout fetch rows := by
  have hkey : fetch.transaction = transaction := Table.key_of_lookup hfetch
  subst hkey
  have hholds := hinv.holds _ fetch hfetch
  unfold State.proceed
  cases hprogress : fetch.progress with
  | started =>
      refine .inl ⟨.read state.stored.rows,
        ⟨state.stored.nodup, List.nodup_nil, ?_, ?_⟩, ?_, rfl⟩
      all_goals
        intro row hrow
        cases hrow
  | read snapshot =>
      rw [hprogress] at hholds
      refine .inl ⟨_, holds_chosen hholds.snapshot _, ?_, rfl⟩
      intro row hrow
      have hchosen := (handout.select_subperm fetch.request _).subset hrow
      exact .inr (mem_candidates (List.mem_filter.mp hchosen).1).2.2
  | locked rows unmarked =>
      cases unmarked with
      | zero => exact .inr ⟨rows, rfl, rfl⟩
      | succ unmarked =>
          rw [hprogress] at hholds
          refine .inl ⟨.locked rows unmarked, ?_, fun _ => .inl, rfl⟩
          exact ⟨List.nodup_nil, hholds.distinct, hholds.eligible, hholds.latest⟩

/-! ## What a step preserves -/

omit [DecidableEq κ] in
theorem lookup_reach {transaction : ℕ} {fetch : Fetch ρ Q}
    {progress : Progress ρ}
    (hfetch : state.fetches.lookup transaction = some fetch) (other : ℕ) :
    (state.reach transaction progress).fetches.lookup other =
      if other = transaction then some { fetch with progress }
      else state.fetches.lookup other := by
  rw [State.reach, Table.lookup_modify, hfetch]
  rfl

theorem lockedByOther_eq_false {transaction other : ℕ} {rival : Fetch ρ Q}
    {row held : ρ} (hfree : state.lockedByOther transaction row = false)
    (hrival : state.fetches.lookup other = some rival)
    (hheld : held ∈ rival.progress.rows) (hkey : key held = key row) :
    other = transaction := by
  have hrow := Table.lookup_eq_some_iff.mp hrival
  have hrefused := List.any_eq_false.mp hfree rival hrow.1
  by_contra hother
  rw [← hrow.2] at hother
  apply hrefused
  apply decide_eq_true
  exact ⟨hother, List.any_eq_true.mpr ⟨held, hheld, decide_eq_true hkey⟩⟩

/-- A row that a fetch goes on to hold is held by no other. -/
theorem sole_holder {transaction other : ℕ} {fetch rival : Fetch ρ Q}
    {progress : Progress ρ} (hinv : Inv handout state)
    (hfetch : state.fetches.lookup transaction = some fetch)
    (hnew : ∀ row ∈ progress.rows, row ∈ fetch.progress.rows ∨
      state.lockedByOther transaction row = false)
    (hrival : state.fetches.lookup other = some rival)
    {row held : ρ} (hrow : row ∈ progress.rows)
    (hheld : held ∈ rival.progress.rows) (hkey : key held = key row) :
    other = transaction := by
  rcases hnew row hrow with hrow | hfree
  · exact hinv.exclusive transaction other fetch rival hfetch hrival row hrow
      held hheld hkey
  · exact lockedByOther_eq_false hfree hrival hheld hkey

theorem inv_reach {transaction : ℕ} {fetch : Fetch ρ Q} {progress : Progress ρ}
    (hinv : Inv handout state)
    (hfetch : state.fetches.lookup transaction = some fetch)
    (hholds : Holds handout state fetch.request progress)
    (hnew : ∀ row ∈ progress.rows, row ∈ fetch.progress.rows ∨
      state.lockedByOther transaction row = false) :
    Inv handout (state.reach transaction progress) where
  holds := by
    intro other found hfound
    rw [lookup_reach hfetch] at hfound
    split at hfound
    · cases hfound
      exact ⟨hholds.snapshot, hholds.distinct, hholds.eligible, hholds.latest⟩
    · obtain ⟨hsnapshot, hdistinct, heligible, hlatest⟩ :=
        hinv.holds other found hfound
      exact ⟨hsnapshot, hdistinct, heligible, hlatest⟩
  exclusive := by
    intro left right found rival hfound hrival row hrow held hheld hkey
    rw [lookup_reach hfetch] at hfound hrival
    by_cases hleft : left = transaction
    · rw [if_pos hleft] at hfound
      cases hfound
      rw [hleft]
      by_cases hright : right = transaction
      · exact hright
      · rw [if_neg hright] at hrival
        exact sole_holder hinv hfetch hnew hrival hrow hheld hkey
    · rw [if_neg hleft] at hfound
      by_cases hright : right = transaction
      · rw [if_pos hright] at hrival
        cases hrival
        rw [hright]
        exact (sole_holder hinv hfetch hnew hfound hheld hrow hkey.symm).symm
      · rw [if_neg hright] at hrival
        exact hinv.exclusive left right found rival hfound hrival row hrow held
          hheld hkey
  eligible := hinv.eligible
  spent := hinv.spent
  once := hinv.once

/-- A fetch in the new table has just started or was in the old one. -/
def Older (fetches next : Table (Fetch.transaction : Fetch ρ Q → ℕ)) : Prop :=
  ∀ transaction fetch, next.lookup transaction = some fetch →
    fetch.progress = .started ∨ fetches.lookup transaction = some fetch

theorem older_erase (fetches : Table (Fetch.transaction : Fetch ρ Q → ℕ))
    (transaction : ℕ) : Older fetches (fetches.erase transaction) :=
  fun _ _ hfetch => .inr (Table.lookup_erase_eq_some.mp hfetch).2

theorem older_start (fetches : Table (Fetch.transaction : Fetch ρ Q → ℕ))
    (fetch : Fetch ρ Q) (hstarted : fetch.progress = .started) :
    Older fetches (fetches.insertOrIgnore fetch) := by
  intro transaction found hfound
  rcases Table.lookup_insertOrIgnore_cases hfound with rfl | hbefore
  · exact .inl hstarted
  · exact .inr hbefore

theorem inv_older {next : Table (Fetch.transaction : Fetch ρ Q → ℕ)}
    (hinv : Inv handout state) (holder : Older state.fetches next) :
    Inv handout { state with fetches := next } where
  holds := by
    intro transaction fetch hfetch
    rcases holder transaction fetch hfetch with hstarted | hfetch
    · rw [hstarted]
      exact holds_started fetch.request
    · obtain ⟨hsnapshot, hdistinct, heligible, hlatest⟩ :=
        hinv.holds transaction fetch hfetch
      exact ⟨hsnapshot, hdistinct, heligible, hlatest⟩
  exclusive := by
    intro transaction other fetch rival hfetch hrival row hrow held hheld hkey
    rcases holder transaction fetch hfetch with hstarted | hfetch
    · rw [hstarted] at hrow
      cases hrow
    rcases holder other rival hrival with hstarted | hrival
    · rw [hstarted] at hheld
      cases hheld
    exact hinv.exclusive transaction other fetch rival hfetch hrival row hrow held
      hheld hkey
  eligible := hinv.eligible
  spent := hinv.spent
  once := hinv.once

theorem spent_of_kept {earlier later : State key Q} {row : ρ}
    (hkept : Kept handout earlier later)
    (hspent : Spent handout earlier.stored row) :
    Spent handout later.stored row := by
  obtain ⟨before, hbefore, hconsumed, hcontent⟩ := hspent
  obtain ⟨latest, hlatest, hsame, hstays⟩ := hkept _ before hbefore
  exact ⟨latest, hlatest, hstays hconsumed, hsame.trans hcontent⟩

theorem kept_of_lookup {earlier later : State key Q}
    (hlookup : ∀ k row, earlier.stored.lookup k = some row →
      later.stored.lookup k = some row) : Kept handout earlier later :=
  fun k row hrow => ⟨row, hlookup k row hrow, rfl, id⟩

theorem kept_refl (state : State key Q) : Kept handout state state :=
  kept_of_lookup fun _ _ => id

theorem kept_trans (first second third : State key Q)
    (hfirst : Kept handout first second) (hsecond : Kept handout second third) :
    Kept handout first third := by
  intro k row hrow
  obtain ⟨between, hbetween, hsame, hstays⟩ := hfirst k row hrow
  obtain ⟨latest, hlatest, hsame', hstays'⟩ := hsecond k between hbetween
  exact ⟨latest, hlatest, hsame'.trans hsame, hstays' ∘ hstays⟩

/-- What is stored under a key after the rows of a fetch were marked. -/
theorem lookup_commit (fetch : Fetch ρ Q) (rows : List ρ) (k : κ) :
    (state.commit handout fetch rows).stored.lookup k =
      (state.stored.lookup k).map fun row =>
        if rows.any fun taken => key taken = key row then
          handout.consume fetch.request row
        else row :=
  Table.lookup_update _ _ _ (handout.key_consume fetch.request) k

theorem kept_commit (fetch : Fetch ρ Q) (rows : List ρ) :
    Kept handout state (state.commit handout fetch rows) := by
  intro k row hrow
  rw [lookup_commit, hrow]
  refine ⟨_, rfl, ?_⟩
  dsimp only
  split
  · exact ⟨handout.content_consume _ row,
      fun _ => handout.consumed_consume _ row⟩
  · exact ⟨rfl, id⟩

theorem handedOut_commit (fetch : Fetch ρ Q) (rows : List ρ) :
    handedOut (state.commit handout fetch rows) = handedOut state ++ rows := by
  simp [handedOut, State.commit]

/-- A row that a fetch returns stands consumed afterwards. -/
theorem spent_commit {fetch : Fetch ρ Q} {rows : List ρ} {row : ρ}
    (hrow : row ∈ rows) (hstored : state.stored.lookup (key row) = some row) :
    Spent handout (state.commit handout fetch rows).stored row := by
  have htaken : (rows.any fun taken => key taken = key row) = true :=
    List.any_eq_true.mpr ⟨row, hrow, decide_eq_true rfl⟩
  refine ⟨handout.consume fetch.request row, ?_, handout.consumed_consume _ row,
    handout.content_consume _ row⟩
  rw [lookup_commit, hstored, Option.map_some, if_pos htaken]

theorem inv_commit {transaction : ℕ} {fetch : Fetch ρ Q} {rows : List ρ}
    (hinv : Inv handout state)
    (hfetch : state.fetches.lookup transaction = some fetch)
    (hrows : fetch.progress.rows = rows) :
    Inv handout (state.commit handout fetch rows) := by
  have hkey : fetch.transaction = transaction := Table.key_of_lookup hfetch
  subst hkey
  have hholds := hinv.holds _ fetch hfetch
  rw [← hrows]
  constructor
  case holds =>
    intro other rival hrival
    obtain ⟨hother, hrival⟩ := Table.lookup_erase_eq_some.mp hrival
    obtain ⟨hsnapshot, hdistinct, heligible, hlatest⟩ :=
      hinv.holds other rival hrival
    refine ⟨hsnapshot, hdistinct, heligible, ?_⟩
    intro held hheld
    obtain ⟨hstored, hunconsumed⟩ := hlatest held hheld
    refine ⟨?_, hunconsumed⟩
    have huntouched :
        (fetch.progress.rows.any fun taken => key taken = key held) = false := by
      apply List.any_eq_false.mpr
      intro row hrow hsame
      exact hother (hinv.exclusive _ other fetch rival hfetch hrival row hrow held
        hheld (of_decide_eq_true hsame).symm)
    rw [lookup_commit, hstored, Option.map_some, huntouched]
    rfl
  case exclusive =>
    exact (inv_older hinv (older_erase state.fetches fetch.transaction)).exclusive
  case eligible =>
    intro answer hanswer
    rcases List.mem_append.mp hanswer with hbefore | hnew
    · exact hinv.eligible answer hbefore
    · rw [List.mem_singleton.mp hnew]
      exact hholds.eligible
  case spent =>
    intro row hrow
    rw [handedOut_commit] at hrow
    rcases List.mem_append.mp hrow with hbefore | hnew
    · exact spent_of_kept (kept_commit fetch _) (hinv.spent row hbefore)
    · exact spent_commit hnew (hholds.latest row hnew).1
  case once =>
    rw [handedOut_commit, List.map_append, List.nodup_append]
    refine ⟨hinv.once, hholds.distinct, ?_⟩
    intro left hleft right hright hsame
    obtain ⟨before, hbefore, rfl⟩ := List.mem_map.mp hleft
    obtain ⟨row, hrow, rfl⟩ := List.mem_map.mp hright
    obtain ⟨latest, hlatest, hconsumed, -⟩ := hinv.spent before hbefore
    obtain ⟨hstored, hunconsumed⟩ := hholds.latest row hrow
    rw [hsame, hstored] at hlatest
    cases hlatest
    rw [hunconsumed] at hconsumed
    cases hconsumed

theorem kept_insert (row : ρ) : Kept handout state (state.insert row) :=
  kept_of_lookup fun _ _ hstored =>
    Table.lookup_insertOrIgnore_of_some hstored row

theorem inv_insert (hinv : Inv handout state) (row : ρ) :
    Inv handout (state.insert row) where
  holds := by
    intro transaction fetch hfetch
    obtain ⟨hsnapshot, hdistinct, heligible, hlatest⟩ :=
      hinv.holds transaction fetch hfetch
    refine ⟨hsnapshot, hdistinct, heligible, ?_⟩
    intro held hheld
    obtain ⟨hstored, hunconsumed⟩ := hlatest held hheld
    exact ⟨Table.lookup_insertOrIgnore_of_some hstored row, hunconsumed⟩
  exclusive := hinv.exclusive
  eligible := hinv.eligible
  spent := fun other hother => spent_of_kept (kept_insert row)
    (hinv.spent other hother)
  once := hinv.once

/-- Every step of a fetch keeps the invariant and every stored row. -/
theorem inv_step (hinv : Inv handout state) (label : Label Q) :
    Inv handout (step handout state label) ∧
      Kept handout state (step handout state label) := by
  cases label with
  | start transaction request =>
      exact ⟨inv_older hinv (older_start state.fetches _ rfl), kept_refl state⟩
  | abort transaction =>
      exact ⟨inv_older hinv (older_erase state.fetches transaction),
        kept_refl state⟩
  | proceed transaction =>
      simp only [step]
      cases hfetch : state.fetches.lookup transaction with
      | none => exact ⟨hinv, kept_refl state⟩
      | some fetch =>
          rcases proceed_cases hinv hfetch with
            ⟨progress, hholds, hnew, hreach⟩ | ⟨rows, hlocked, hcommit⟩
          · dsimp only
            rw [hreach]
            exact ⟨inv_reach hinv hfetch hholds hnew, kept_refl state⟩
          · dsimp only
            rw [hcommit]
            exact ⟨inv_commit hinv hfetch (by rw [hlocked]; rfl),
              kept_commit fetch rows⟩

/-- A fetch neither adds a row nor changes a content. -/
theorem content_step (hinv : Inv handout state) (label : Label Q) (k : κ) :
    ((step handout state label).stored.lookup k).map handout.content =
      (state.stored.lookup k).map handout.content := by
  cases label with
  | start transaction request => rfl
  | abort transaction => rfl
  | proceed transaction =>
      simp only [step]
      cases hfetch : state.fetches.lookup transaction with
      | none => rfl
      | some fetch =>
          rcases proceed_cases hinv hfetch with
            ⟨progress, -, -, hreach⟩ | ⟨rows, -, hcommit⟩
          · dsimp only
            rw [hreach]
            rfl
          · dsimp only
            rw [hcommit, lookup_commit, Option.map_map]
            congr 1
            funext row
            dsimp only [Function.comp]
            split
            · exact handout.content_consume _ row
            · rfl

/-! ## A fetch that nothing interrupts -/

/-- The state with one fetch in flight. -/
def State.alone (state : State key Q) (fetch : Fetch ρ Q) : State key Q :=
  { state with fetches := ⟨[fetch], List.nodup_singleton _⟩ }

theorem step_alone (handout : Handout key Q γ) (state : State key Q)
    (fetch : Fetch ρ Q) :
    step handout (state.alone fetch) (.proceed fetch.transaction) =
      (state.alone fetch).proceed handout fetch := by
  simp [step, State.alone, Table.lookup]

omit [DecidableEq κ] in
theorem reach_alone (state : State key Q) (fetch : Fetch ρ Q)
    (progress : Progress ρ) :
    (state.alone fetch).reach fetch.transaction progress =
      state.alone { fetch with progress } := by
  simp [State.reach, State.alone, Table.modify, Table.update]

theorem commit_alone (handout : Handout key Q γ) (state : State key Q)
    (fetch : Fetch ρ Q) (rows : List ρ) (hidle : state.fetches = Table.empty) :
    (state.alone fetch).commit handout fetch rows =
      state.commit handout fetch rows := by
  simp [State.commit, State.alone, hidle, Table.erase, Table.delete, Table.empty]

/-- The rows a fetch finds when no other is in flight. -/
theorem candidates_alone (handout : Handout key Q γ) (state : State key Q)
    (fetch : Fetch ρ Q) :
    (state.alone fetch).candidates handout fetch.transaction state.stored.rows =
      state.stored.rows.filter fun row => !handout.consumed row := by
  have hfound : ∀ row ∈ state.stored.rows,
      ((state.alone fetch).stored.lookup (key row)).filter (fun latest =>
        !handout.consumed latest &&
          !(state.alone fetch).lockedByOther fetch.transaction latest) =
        Option.guard (fun row => !handout.consumed row) row := by
    intro row hrow
    have hlookup : (state.alone fetch).stored.lookup (key row) = some row :=
      Table.mem_rows_iff.mp hrow
    have hfree : (state.alone fetch).lockedByOther fetch.transaction row =
        false := by
      simp [State.lockedByOther, State.alone]
    rw [hlookup, Option.filter_some, hfree]
    simp [Option.guard]
  rw [State.candidates, List.filterMap_congr hfound, List.filterMap_eq_filter]

theorem marking_alone (handout : Handout key Q γ) (state : State key Q)
    (transaction : ℕ) (request : Q) (rows : List ρ) (unmarked : ℕ)
    (hidle : state.fetches = Table.empty) :
    Runs.run (step handout)
        (state.alone ⟨transaction, request, .locked rows unmarked⟩)
        (List.replicate (unmarked + 1) (.proceed transaction)) =
      state.commit handout ⟨transaction, request, .locked rows 0⟩ rows := by
  induction unmarked with
  | zero =>
      rw [List.replicate_one, Runs.run_cons,
        step_alone handout state ⟨transaction, request, .locked rows 0⟩]
      exact commit_alone handout state _ rows hidle
  | succ unmarked ih =>
      rw [List.replicate_succ, Runs.run_cons,
        step_alone handout state ⟨transaction, request, .locked rows (unmarked + 1)⟩,
        ← ih]
      exact congrArg (fun next => Runs.run (step handout) next _)
        (reach_alone state ⟨transaction, request, .locked rows (unmarked + 1)⟩ _)

/-- What a request finds when nothing else is going on. -/
def Handout.rows (handout : Handout key Q γ) (stored : Table key) (request : Q) :
    List ρ :=
  handout.select request ((stored.rows.filter fun row =>
    !handout.consumed row).filter (handout.eligible request))

/-- A fetch that nothing interrupts reads, marks and returns the rows its
request finds. -/
theorem uninterrupted_fetch (handout : Handout key Q γ) (state : State key Q)
    (transaction : ℕ) (request : Q) (hidle : state.fetches = Table.empty) :
    Runs.run (step handout) state (.start transaction request ::
        List.replicate ((handout.rows state.stored request).length + 3)
          (.proceed transaction)) =
      state.commit handout ⟨transaction, request, .started⟩
        (handout.rows state.stored request) := by
  let rows := handout.rows state.stored request
  have hstart : step handout state (.start transaction request) =
      state.alone ⟨transaction, request, .started⟩ := by
    rw [step, hidle]
    rfl
  have hread : (state.alone ⟨transaction, request, .started⟩).proceed handout
      ⟨transaction, request, .started⟩ =
      state.alone ⟨transaction, request, .read state.stored.rows⟩ :=
    reach_alone state ⟨transaction, request, .started⟩ _
  have hlocked : (state.alone ⟨transaction, request,
      .read state.stored.rows⟩).proceed handout
        ⟨transaction, request, .read state.stored.rows⟩ =
      state.alone ⟨transaction, request, .locked rows rows.length⟩ := by
    rw [← reach_alone state ⟨transaction, request, .read state.stored.rows⟩
      (.locked rows rows.length)]
    unfold State.proceed
    dsimp only
    rw [candidates_alone handout state
      ⟨transaction, request, .read state.stored.rows⟩]
    rfl
  rw [Runs.run_cons, hstart, List.replicate_succ, Runs.run_cons,
    step_alone handout state ⟨transaction, request, .started⟩, hread,
    List.replicate_succ, Runs.run_cons,
    step_alone handout state ⟨transaction, request, .read state.stored.rows⟩,
    hlocked]
  exact marking_alone handout state transaction request rows rows.length hidle

end System

end ResilientMessenger.Mailbox
