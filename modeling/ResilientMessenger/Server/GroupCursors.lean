import ResilientMessenger.Server.CursorVisibility

/-!
# Acknowledged group cursors

`advance_group_cursor` reads the device's cursor, compares and overwrites it in
separate statements.  The `SELECT … FOR UPDATE` holds the row from the reading
to the commit, but only if there is a row: before the first acknowledgement of
a device nothing is locked, and the upsert overwrites whatever another first
acknowledgement has committed since.  The cursor therefore ascends in exactly
those runs in which no call that found no row commits below a row that has
appeared in the meantime.
-/

namespace ResilientMessenger.GroupCursors

open ResilientMessenger.ByteCodec
open ResilientMessenger.Schema
open ResilientMessenger.Backend
open ResilientMessenger.Transaction
open ResilientMessenger.Runs

/-! ## The call on its own -/

/-- The cursor stored for a device and a group. -/
def committed (db : Database) (key : Id16 × Id16) : Option ℤ :=
  (db.deviceGroupCursors.lookup key).map GroupCursorRow.cursor

/-- `COALESCE(MAX(event_cursor),0)` over the events of a group. -/
def available (groupId : Id16) (db : Database) : ℤ :=
  ((db.groupEvents.rows.filter fun row => row.groupId = groupId).map
    EventRow.eventCursor).max?.getD 0

def cursorAllowed (row : GroupCursorRow) (db : Database) : Bool :=
  db.hasDevice row.deviceId && db.hasGroup row.groupId && decide (0 ≤ row.cursor)

theorem key_withCursor (cursor : ℤ) (stored : GroupCursorRow) :
    GroupCursorRow.key { stored with cursor } = stored.key := rfl

/-- `INSERT … ON CONFLICT(device_id,group_id) DO UPDATE SET cursor`. -/
def writeCursor (row : GroupCursorRow) (db : Database) : Database :=
  { db with
    deviceGroupCursors := db.deviceGroupCursors.upsert row
      (fun stored => { stored with cursor := row.cursor })
      (key_withCursor row.cursor) }

def advanceGroupCursor (deviceId groupId : Id16) (cursor : ℤ) (db : Database) :
    Except ApiError Unit × Database :=
  transaction db fun db => do
    assertActiveMember groupId deviceId db
    if (committed db (deviceId, groupId)).any fun value => cursor < value then
      .error .cursorRegression
    if available groupId db < cursor then .error .invalidInput
    if !cursorAllowed ⟨deviceId, groupId, cursor⟩ db then .error .database
    pure ((), writeCursor ⟨deviceId, groupId, cursor⟩ db)

/-! ## Calls next to each other -/

/-- How far the transaction of a call has come, with what its `SELECT` found. -/
inductive Progress where
  | started
  | admitted
  | selected (current : Option ℤ)
  | checked (current : Option ℤ)
  | written (current : Option ℤ)
  deriving DecidableEq

def Progress.current : Progress → Option ℤ
  | .started | .admitted => none
  | .selected current | .checked current | .written current => current

def Progress.isWritten : Progress → Bool
  | .written _ => true
  | _ => false

/-- The row is locked by a `SELECT` that found it and by the upsert. -/
def Progress.holds (progress : Progress) : Bool :=
  progress.current.isSome || progress.isWritten

structure Call where
  transaction : ℕ
  deviceId : Id16
  groupId : Id16
  cursor : ℤ
  progress : Progress
  deriving DecidableEq

def Call.row (call : Call) : GroupCursorRow :=
  ⟨call.deviceId, call.groupId, call.cursor⟩

def Call.key (call : Call) : Id16 × Id16 := call.row.key

/-- `db` holds what is committed, `answers` what the calls have returned. -/
structure System where
  db : Database
  calls : Table Call.transaction
  answers : List (ℕ × Except ApiError Unit)

/-- Other transactions may do anything but acknowledge cursors. -/
inductive Label where
  | start (transaction : ℕ) (deviceId groupId : Id16) (cursor : ℤ)
  | proceed (transaction : ℕ)
  | abort (transaction : ℕ)
  | others (db : Database)

namespace System

def initial (db : Database) : System := ⟨db, Table.empty, []⟩

def reach (system : System) (transaction : ℕ) (progress : Progress) : System :=
  { system with
    calls := system.calls.modify transaction (fun _ => true)
      (fun call => { call with progress }) fun _ => rfl }

def answer (system : System) (transaction : ℕ) (result : Except ApiError Unit) :
    System :=
  { system with
    calls := system.calls.erase transaction
    answers := system.answers ++ [(transaction, result)] }

/-- Another transaction holds the row. -/
def locked (system : System) (call : Call) : Bool :=
  system.calls.rows.any fun other =>
    other.transaction ≠ call.transaction ∧ other.key = call.key ∧
      other.progress.holds = true

def commit (system : System) (call : Call) : System :=
  { system with db := writeCursor call.row system.db }.answer call.transaction
    (.ok ())

/-- The next statement of `advance_group_cursor`.  Reading an existing row for
update and writing wait as long as another transaction holds the row. -/
def proceed (system : System) (call : Call) : System :=
  match call.progress with
  | .started =>
      match assertActiveMember call.groupId call.deviceId system.db with
      | .ok _ => system.reach call.transaction .admitted
      | .error failure => system.answer call.transaction (.error failure)
  | .admitted =>
      match committed system.db call.key with
      | none => system.reach call.transaction (.selected none)
      | some value =>
          if system.locked call then system
          else if call.cursor < value then
            system.answer call.transaction (.error .cursorRegression)
          else system.reach call.transaction (.selected (some value))
  | .selected current =>
      if available call.groupId system.db < call.cursor then
        system.answer call.transaction (.error .invalidInput)
      else system.reach call.transaction (.checked current)
  | .checked current =>
      if !cursorAllowed call.row system.db then
        system.answer call.transaction (.error .database)
      else if system.locked call then system
      else system.reach call.transaction (.written current)
  | .written _ => system.commit call

end System

def step (system : System) : Label → System
  | .start transaction deviceId groupId cursor =>
      { system with
        calls := system.calls.insertOrIgnore
          ⟨transaction, deviceId, groupId, cursor, .started⟩ }
  | .proceed transaction =>
      match system.calls.lookup transaction with
      | none => system
      | some call => system.proceed call
  | .abort transaction =>
      match system.calls.lookup transaction with
      | none => system
      | some _ => system.answer transaction (.error .database)
  | .others db =>
      { system with
        db := { db with deviceGroupCursors := system.db.deviceGroupCursors } }

/-- Every stored cursor is still stored or has been replaced by a larger one. -/
def Advanced (earlier later : System) : Prop :=
  ∀ key value, committed earlier.db key = some value →
    ∃ reached, committed later.db key = some reached ∧ value ≤ reached

/-- The call whose transaction a label commits. -/
def System.committing (system : System) : Label → Option Call
  | .proceed transaction =>
      (system.calls.lookup transaction).filter fun call =>
        call.progress.isWritten
  | _ => none

/-- A call whose `SELECT` found no row does not commit below a row that has
been committed since. -/
def CommitsAhead (system : System) (label : Label) : Prop :=
  ∀ call, system.committing label = some call → call.progress.current = none →
    ∀ value, committed system.db call.key = some value → value ≤ call.cursor

/-! ## What a step does -/

/-- A call may go on to a state that holds the row if it held it already or
nobody else does, and that remembers a cursor if it remembered it already or
the cursor is stored and not above the call's own. -/
structure Admissible (system : System) (call : Call) (progress : Progress) :
    Prop where
  holds : progress.holds = true →
    call.progress.holds = true ∨ system.locked call = false
  current : ∀ value, progress.current = some value →
    call.progress.current = some value ∨
      committed system.db call.key = some value ∧ value ≤ call.cursor

theorem admissible_same {system : System} {call : Call} {progress : Progress}
    (hcurrent : progress.current = call.progress.current)
    (hwritten : progress.isWritten = call.progress.isWritten) :
    Admissible system call progress where
  holds hholds := by
    left
    rw [← hholds, Progress.holds, Progress.holds, hcurrent, hwritten]
  current value hvalue := .inl (hcurrent ▸ hvalue)

/-- The complete list of ways a call can proceed. -/
theorem proceed_cases (system : System) (call : Call) :
    (call.progress.isWritten = false ∧
      (system.proceed call = system ∨
        (∃ result, system.proceed call = system.answer call.transaction result) ∨
        ∃ progress, Admissible system call progress ∧
          system.proceed call = system.reach call.transaction progress)) ∨
      call.progress.isWritten = true ∧
        system.proceed call = system.commit call := by
  unfold System.proceed
  cases hprogress : call.progress with
  | started =>
      refine .inl ⟨rfl, ?_⟩
      dsimp only
      split
      · refine .inr (.inr ⟨_, admissible_same ?_ ?_, rfl⟩) <;>
          rw [hprogress] <;> rfl
      · exact .inr (.inl ⟨_, rfl⟩)
  | admitted =>
      refine .inl ⟨rfl, ?_⟩
      dsimp only
      split
      case h_1 =>
        refine .inr (.inr ⟨_, admissible_same ?_ ?_, rfl⟩) <;>
          rw [hprogress] <;> rfl
      case h_2 value hvalue =>
        by_cases hlocked : system.locked call = true
        · rw [if_pos hlocked]
          exact .inl rfl
        rw [if_neg hlocked]
        by_cases hregression : call.cursor < value
        · rw [if_pos hregression]
          exact .inr (.inl ⟨_, rfl⟩)
        rw [if_neg hregression]
        refine .inr (.inr ⟨_, ⟨fun _ => .inr (by simpa using hlocked), ?_⟩, rfl⟩)
        intro found hfound
        cases hfound
        exact .inr ⟨hvalue, not_lt.mp hregression⟩
  | selected current =>
      refine .inl ⟨rfl, ?_⟩
      dsimp only
      split
      · exact .inr (.inl ⟨_, rfl⟩)
      · refine .inr (.inr ⟨_, admissible_same ?_ ?_, rfl⟩) <;>
          rw [hprogress] <;> rfl
  | checked current =>
      refine .inl ⟨rfl, ?_⟩
      dsimp only
      split
      · exact .inr (.inl ⟨_, rfl⟩)
      split
      · exact .inl rfl
      case isFalse hlocked =>
        refine .inr (.inr ⟨_, ⟨fun _ => .inr (by simpa using hlocked), ?_⟩, rfl⟩)
        intro found hfound
        left
        rw [hprogress]
        exact hfound
  | written current => exact .inr ⟨rfl, rfl⟩

/-- The stored cursors are as before, and every call in flight has just started
or is where it was. -/
structure Idle (system next : System) : Prop where
  cursors : next.db.deviceGroupCursors = system.db.deviceGroupCursors
  calls : ∀ transaction call, next.calls.lookup transaction = some call →
    call.progress = .started ∨ system.calls.lookup transaction = some call

theorem idle_refl (system : System) : Idle system system :=
  ⟨rfl, fun _ _ => .inr⟩

theorem idle_answer (system : System) (transaction : ℕ)
    (result : Except ApiError Unit) :
    Idle system (system.answer transaction result) where
  cursors := rfl
  calls := fun _ _ hcall => .inr (Table.lookup_erase_eq_some.mp hcall).2

theorem idle_start (system : System) (call : Call)
    (hstarted : call.progress = .started) :
    Idle system { system with calls := system.calls.insertOrIgnore call } where
  cursors := rfl
  calls := by
    intro transaction found hfound
    rcases Table.lookup_insertOrIgnore_cases hfound with rfl | hbefore
    · exact .inl hstarted
    · exact .inr hbefore

/-- Every step is idle, lets one call go on or commits one call. -/
theorem step_cases (system : System) (label : Label) :
    (system.committing label = none ∧
      (Idle system (step system label) ∨
        ∃ call progress, system.calls.lookup call.transaction = some call ∧
          Admissible system call progress ∧
          step system label = system.reach call.transaction progress)) ∨
      ∃ call, system.committing label = some call ∧
        call.progress.isWritten = true ∧
        system.calls.lookup call.transaction = some call ∧
        step system label = system.commit call := by
  cases label with
  | start transaction deviceId groupId cursor =>
      exact .inl ⟨rfl, .inl (idle_start system _ rfl)⟩
  | proceed transaction =>
      simp only [step, System.committing]
      cases hlookup : system.calls.lookup transaction with
      | none => exact .inl ⟨rfl, .inl (idle_refl system)⟩
      | some call =>
          have hkey : call.transaction = transaction := Table.key_of_lookup hlookup
          subst hkey
          dsimp only
          rcases proceed_cases system call with ⟨hpending, hnext⟩ |
            ⟨hwritten, hcommit⟩
          · refine .inl ⟨by simp [hpending], ?_⟩
            rcases hnext with hsame | ⟨result, hanswer⟩ | ⟨progress, hgo, hreach⟩
            · rw [hsame]
              exact .inl (idle_refl system)
            · rw [hanswer]
              exact .inl (idle_answer system _ result)
            · exact .inr ⟨call, progress, hlookup, hgo, hreach⟩
          · exact .inr ⟨call, by simp [hwritten], hwritten, hlookup, hcommit⟩
  | abort transaction =>
      refine .inl ⟨rfl, .inl ?_⟩
      simp only [step]
      split
      · exact idle_refl system
      · exact idle_answer system transaction _
  | others db => exact .inl ⟨rfl, .inl ⟨rfl, fun _ _ => .inr⟩⟩

/-! ## The row lock -/

/-- At most one call holds a row, and what a call has read of its row is still
stored and not above the call's own cursor. -/
structure Inv (system : System) : Prop where
  exclusive : ∀ transaction other call rival,
    system.calls.lookup transaction = some call →
    system.calls.lookup other = some rival → rival.key = call.key →
    call.progress.holds = true → rival.progress.holds = true →
      other = transaction
  current : ∀ transaction call value,
    system.calls.lookup transaction = some call →
    call.progress.current = some value →
      committed system.db call.key = some value ∧ value ≤ call.cursor

theorem holds_of_current {progress : Progress} {value : ℤ}
    (hcurrent : progress.current = some value) : progress.holds = true := by
  simp [Progress.holds, hcurrent]

theorem locked_eq_false {system : System} {call rival : Call} {other : ℕ}
    (hfree : system.locked call = false)
    (hrival : system.calls.lookup other = some rival)
    (hkey : rival.key = call.key) (hholds : rival.progress.holds = true) :
    other = call.transaction := by
  have hrow := Table.lookup_eq_some_iff.mp hrival
  have hrefused := List.any_eq_false.mp hfree rival hrow.1
  by_contra hother
  rw [← hrow.2] at hother
  exact hrefused (decide_eq_true ⟨hother, hkey, hholds⟩)

theorem inv_initial (db : Database) : Inv (System.initial db) where
  exclusive := by
    intro transaction other call rival hcall
    cases hcall
  current := by
    intro transaction call value hcall
    cases hcall

theorem committed_congr {db next : Database}
    (hcursors : next.deviceGroupCursors = db.deviceGroupCursors) :
    committed next = committed db := by
  funext key
  rw [committed, committed, hcursors]

theorem inv_idle {system next : System} (hinv : Inv system)
    (hidle : Idle system next) : Inv next where
  exclusive := by
    intro transaction other call rival hcall hrival hkey hholds hheld
    rcases hidle.calls transaction call hcall with hstarted | hcall
    · rw [hstarted] at hholds
      cases hholds
    rcases hidle.calls other rival hrival with hstarted | hrival
    · rw [hstarted] at hheld
      cases hheld
    exact hinv.exclusive transaction other call rival hcall hrival hkey hholds hheld
  current := by
    intro transaction call value hcall hcurrent
    rcases hidle.calls transaction call hcall with hstarted | hcall
    · rw [hstarted] at hcurrent
      cases hcurrent
    rw [committed_congr hidle.cursors]
    exact hinv.current transaction call value hcall hcurrent

/-- What is found under a number after a call has gone on. -/
theorem lookup_reach {system : System} {call : Call} {progress : Progress}
    (hcall : system.calls.lookup call.transaction = some call) (other : ℕ) :
    (system.reach call.transaction progress).calls.lookup other =
      if other = call.transaction then some { call with progress }
      else system.calls.lookup other := by
  rw [System.reach, Table.lookup_modify, hcall]
  rfl

/-- A call that goes on to hold its row is the only one to hold it. -/
theorem sole_holder {system : System} {call rival : Call} {progress : Progress}
    {other : ℕ} (hinv : Inv system)
    (hcall : system.calls.lookup call.transaction = some call)
    (hgo : Admissible system call progress) (hholds : progress.holds = true)
    (hrival : system.calls.lookup other = some rival)
    (hkey : rival.key = call.key) (hheld : rival.progress.holds = true) :
    other = call.transaction := by
  rcases hgo.holds hholds with hholds | hfree
  · exact hinv.exclusive _ other call rival hcall hrival hkey hholds hheld
  · exact locked_eq_false hfree hrival hkey hheld

theorem inv_reach {system : System} {call : Call} {progress : Progress}
    (hinv : Inv system)
    (hcall : system.calls.lookup call.transaction = some call)
    (hgo : Admissible system call progress) :
    Inv (system.reach call.transaction progress) where
  exclusive := by
    intro transaction other found rival hfound hrival hkey hholds hheld
    rw [lookup_reach hcall] at hfound hrival
    by_cases htransaction : transaction = call.transaction
    · rw [if_pos htransaction] at hfound
      cases hfound
      by_cases hother : other = call.transaction
      · rw [hother, htransaction]
      · rw [if_neg hother] at hrival
        rw [htransaction]
        exact sole_holder hinv hcall hgo hholds hrival hkey hheld
    · rw [if_neg htransaction] at hfound
      by_cases hother : other = call.transaction
      · rw [if_pos hother] at hrival
        cases hrival
        rw [hother]
        exact (sole_holder hinv hcall hgo hheld hfound hkey.symm hholds).symm
      · rw [if_neg hother] at hrival
        exact hinv.exclusive transaction other found rival hfound hrival hkey
          hholds hheld
  current := by
    intro transaction found value hfound hcurrent
    rw [lookup_reach hcall] at hfound
    by_cases htransaction : transaction = call.transaction
    · rw [if_pos htransaction] at hfound
      cases hfound
      rcases hgo.current value hcurrent with hbefore | hread
      · exact hinv.current _ call value hcall hbefore
      · exact hread
    · rw [if_neg htransaction] at hfound
      exact hinv.current transaction found value hfound hcurrent

theorem committed_writeCursor (row : GroupCursorRow) (db : Database)
    (key : Id16 × Id16) :
    committed (writeCursor row db) key =
      if key = row.key then some row.cursor else committed db key := by
  unfold committed writeCursor
  dsimp only
  rw [Table.lookup_upsert]
  split
  · cases db.deviceGroupCursors.lookup key <;> rfl
  · rfl

theorem committed_commit (system : System) (call : Call) (key : Id16 × Id16) :
    committed (system.commit call).db key =
      if key = call.key then some call.cursor else committed system.db key :=
  committed_writeCursor call.row system.db key

theorem inv_commit {system : System} {call : Call} (hinv : Inv system)
    (hcall : system.calls.lookup call.transaction = some call)
    (hwritten : call.progress.isWritten = true) : Inv (system.commit call) := by
  constructor
  case exclusive =>
    exact (inv_idle hinv (idle_answer system call.transaction (.ok ()))).exclusive
  case current =>
    intro transaction found value hfound hcurrent
    have hholder : call.progress.holds = true := by
      simp [Progress.holds, hwritten]
    obtain ⟨hother, hfound⟩ := Table.lookup_erase_eq_some.mp hfound
    have hkey : found.key ≠ call.key := fun hkey => hother
      (hinv.exclusive _ _ call found hcall hfound hkey hholder
        (holds_of_current hcurrent))
    have hstored := hinv.current transaction found value hfound hcurrent
    rw [committed_commit, if_neg hkey]
    exact hstored

theorem inv_step (system : System) (label : Label) (hinv : Inv system) :
    Inv (step system label) := by
  rcases step_cases system label with ⟨-, hidle | ⟨call, progress, hcall, hgo, hstep⟩⟩ |
    ⟨call, -, hwritten, hcall, hstep⟩
  · exact inv_idle hinv hidle
  · rw [hstep]
    exact inv_reach hinv hcall hgo
  · rw [hstep]
    exact inv_commit hinv hcall hwritten

/-! ## Whole runs -/

theorem advanced_refl (system : System) : Advanced system system :=
  fun _ value hvalue => ⟨value, hvalue, le_rfl⟩

theorem advanced_trans (first second third : System)
    (hfirst : Advanced first second) (hsecond : Advanced second third) :
    Advanced first third := by
  intro key value hvalue
  obtain ⟨middle, hmiddle, hle⟩ := hfirst key value hvalue
  obtain ⟨reached, hreached, hle'⟩ := hsecond key middle hmiddle
  exact ⟨reached, hreached, hle.trans hle'⟩

theorem advanced_of_same {system next : System}
    (hcursors : next.db.deviceGroupCursors = system.db.deviceGroupCursors) :
    Advanced system next := by
  intro key value hvalue
  rw [← committed_congr hcursors] at hvalue
  exact ⟨value, hvalue, le_rfl⟩

/-- A commit ascends exactly when the stored cursor is not above the call's. -/
theorem advanced_commit_iff (system : System) (call : Call) :
    Advanced system (system.commit call) ↔
      ∀ value, committed system.db call.key = some value →
        value ≤ call.cursor := by
  constructor
  · intro hadvanced value hvalue
    obtain ⟨reached, hreached, hle⟩ := hadvanced call.key value hvalue
    rw [committed_commit, if_pos rfl] at hreached
    cases hreached
    exact hle
  · intro hbound key value hvalue
    rw [committed_commit]
    by_cases hkey : key = call.key
    · rw [if_pos hkey]
      exact ⟨call.cursor, rfl, hbound value (hkey ▸ hvalue)⟩
    · rw [if_neg hkey]
      exact ⟨value, hvalue, le_rfl⟩

theorem commitsAhead_iff_advanced (system : System) (label : Label)
    (hinv : Inv system) :
    Advanced system (step system label) ↔ CommitsAhead system label := by
  rcases step_cases system label with ⟨hnone, hquiet⟩ |
    ⟨call, hcommitting, -, hcall, hstep⟩
  · have hahead : CommitsAhead system label := by
      intro call hcommitting
      rw [hnone] at hcommitting
      cases hcommitting
    refine iff_of_true ?_ hahead
    rcases hquiet with hidle | ⟨call, progress, -, -, hstep⟩
    · exact advanced_of_same hidle.cursors
    · rw [hstep]
      exact advanced_of_same rfl
  · rw [hstep, advanced_commit_iff]
    constructor
    · intro hbound other hother _
      rw [hcommitting] at hother
      cases hother
      exact hbound
    · intro hahead value hvalue
      cases hcurrent : call.progress.current with
      | none => exact hahead call hcommitting hcurrent value hvalue
      | some read =>
          obtain ⟨hstored, hle⟩ := hinv.current _ call read hcall hcurrent
          rw [hvalue] at hstored
          cases hstored
          exact hle

/-- Over a run of any number of calls the committed cursors never decrease
exactly when no call that found no row commits below one that has been
committed since. -/
theorem cursors_ascend_iff_commits_ahead (db : Database) (labels : List Label) :
    Ascending step Advanced (System.initial db) labels ↔
      Guarded step CommitsAhead (System.initial db) labels := by
  rw [ascending_iff_guarded advanced_refl advanced_trans]
  exact guarded_congr inv_step commitsAhead_iff_advanced (inv_initial db) labels

/-- The sample group after two events. -/
def twoEvents : Database :=
  (uploadEvent 0 (CursorVisibility.sampleEvent 2)
    (uploadEvent 0 (CursorVisibility.sampleEvent 1) Redelivery.sampleServer).2).2

/-- Two first acknowledgements read before either writes, and the one of the
second event commits first. -/
def overlapping : List Label :=
  [.start 1 (FixedBytes.fill 16 3) (FixedBytes.fill 16 5) 1,
    .start 2 (FixedBytes.fill 16 3) (FixedBytes.fill 16 5) 2,
    .proceed 1, .proceed 2, .proceed 1, .proceed 2, .proceed 1, .proceed 2,
    .proceed 2, .proceed 2, .proceed 1]

/-- The acknowledgement of the second event is overwritten by the first. -/
theorem first_acknowledgement_lost :
    ¬Ascending step Advanced (System.initial twoEvents)
      (overlapping ++ [.proceed 1]) := by
  intro hascending
  have hadvanced := hascending overlapping [.proceed 1] [] (by simp)
  obtain ⟨reached, hreached, hle⟩ := hadvanced
    (FixedBytes.fill 16 3, FixedBytes.fill 16 5) 2 (by decide +kernel)
  have hlast : committed (run step (System.initial twoEvents)
      (overlapping ++ [.proceed 1])).db
      (FixedBytes.fill 16 3, FixedBytes.fill 16 5) = some 1 := by decide +kernel
  rw [hlast] at hreached
  cases hreached
  exact absurd hle (by decide)

/-! ## Calls on their own -/

/-- The system with one call in flight. -/
def System.alone (system : System) (call : Call) : System :=
  { system with calls := ⟨[call], List.nodup_singleton _⟩ }

/-- The system after its only call. -/
def System.answered (system : System) (transaction : ℕ)
    (outcome : Except ApiError Unit × Database) : System :=
  ⟨outcome.2, Table.empty, system.answers ++ [(transaction, outcome.1)]⟩

theorem locked_alone (system : System) (call : Call) :
    (system.alone call).locked call = false := by
  simp [System.locked, System.alone]

theorem reach_alone (system : System) (call : Call) (progress : Progress) :
    (system.alone call).reach call.transaction progress =
      system.alone { call with progress } := by
  simp [System.reach, System.alone, Table.modify, Table.update]

theorem answer_alone (system : System) (call : Call)
    (result : Except ApiError Unit) :
    (system.alone call).answer call.transaction result =
      system.answered call.transaction (result, system.db) := by
  simp [System.answer, System.alone, System.answered, Table.erase, Table.delete,
    Table.empty]

theorem step_alone (system : System) (call : Call) :
    step (system.alone call) (.proceed call.transaction) =
      (system.alone call).proceed call := by
  simp [step, System.alone, Table.lookup]

theorem run_answered (system : System) (transaction count : ℕ)
    (outcome : Except ApiError Unit × Database) :
    run step (system.answered transaction outcome)
        (List.replicate count (.proceed transaction)) =
      system.answered transaction outcome := by
  induction count with
  | zero => rfl
  | succ count ih =>
      rw [List.replicate_succ, run_cons]
      exact ih

/-- A call that nothing interrupts and whose next statement fails. -/
theorem refused_alone {system : System} {call : Call} {failure : ApiError}
    (hrefused : (system.alone call).proceed call =
      (system.alone call).answer call.transaction (.error failure)) (count : ℕ) :
    run step (system.alone call)
        (List.replicate (count + 1) (.proceed call.transaction)) =
      system.answered call.transaction (.error failure, system.db) := by
  rw [List.replicate_succ, run_cons, step_alone, hrefused, answer_alone,
    run_answered]

/-- A call that nothing interrupts and that goes on. -/
theorem reached_alone {system : System} {call : Call} {progress : Progress}
    (hreached : (system.alone call).proceed call =
      (system.alone call).reach call.transaction progress) (count : ℕ) :
    run step (system.alone call)
        (List.replicate (count + 1) (.proceed call.transaction)) =
      run step (system.alone { call with progress })
        (List.replicate count (.proceed call.transaction)) := by
  rw [List.replicate_succ, run_cons, step_alone, hreached, reach_alone]

/-- The upsert and the commit of a call that nothing interrupts. -/
theorem writing_alone (system : System) (call : Call) (current : Option ℤ)
    (hchecked : call.progress = .checked current) :
    run step (system.alone call)
        (List.replicate 2 (.proceed call.transaction)) =
      system.answered call.transaction
        (if !cursorAllowed call.row system.db then (.error .database, system.db)
        else (.ok (), writeCursor call.row system.db)) := by
  by_cases hrefused : (!cursorAllowed call.row system.db) = true
  · rw [if_pos hrefused]
    apply refused_alone
    rw [System.proceed, hchecked]
    exact if_pos hrefused
  · have hwritten : (system.alone call).proceed call =
        (system.alone call).reach call.transaction (.written current) := by
      rw [System.proceed, hchecked, locked_alone]
      exact if_neg hrefused
    rw [if_neg hrefused, reached_alone hwritten, List.replicate_one, run_cons,
      step_alone system { call with progress := .written current }]
    exact answer_alone { system with db := writeCursor call.row system.db }
      { call with progress := .written current } (.ok ())

/-- The comparison with the group's events and what follows. -/
theorem checking_alone (system : System) (call : Call) (current : Option ℤ)
    (hselected : call.progress = .selected current) :
    run step (system.alone call)
        (List.replicate 3 (.proceed call.transaction)) =
      system.answered call.transaction
        (if available call.groupId system.db < call.cursor then
          (.error .invalidInput, system.db)
        else if !cursorAllowed call.row system.db then
          (.error .database, system.db)
        else (.ok (), writeCursor call.row system.db)) := by
  by_cases hbeyond : available call.groupId system.db < call.cursor
  · rw [if_pos hbeyond]
    apply refused_alone
    rw [System.proceed, hselected]
    exact if_pos hbeyond
  · have hchecked : (system.alone call).proceed call =
        (system.alone call).reach call.transaction (.checked current) := by
      rw [System.proceed, hselected]
      exact if_neg hbeyond
    rw [if_neg hbeyond, reached_alone hchecked]
    exact writing_alone system { call with progress := .checked current }
      current rfl

/-- Reading the row and what follows. -/
theorem selecting_alone (system : System) (call : Call)
    (hadmitted : call.progress = .admitted) :
    run step (system.alone call)
        (List.replicate 4 (.proceed call.transaction)) =
      system.answered call.transaction
        (if (committed system.db call.key).any fun value =>
            call.cursor < value then
          (.error .cursorRegression, system.db)
        else if available call.groupId system.db < call.cursor then
          (.error .invalidInput, system.db)
        else if !cursorAllowed call.row system.db then
          (.error .database, system.db)
        else (.ok (), writeCursor call.row system.db)) := by
  have hdb : (system.alone call).db = system.db := rfl
  cases hcommitted : committed system.db call.key with
  | none =>
      have hselected : (system.alone call).proceed call =
          (system.alone call).reach call.transaction (.selected none) := by
        rw [System.proceed, hadmitted, hdb, hcommitted]
      rw [reached_alone hselected]
      exact checking_alone system { call with progress := .selected none }
        none rfl
  | some value =>
      by_cases hregression : call.cursor < value
      · rw [Option.any_some, if_pos (decide_eq_true hregression)]
        apply refused_alone
        rw [System.proceed, hadmitted, hdb, hcommitted, locked_alone]
        exact if_pos hregression
      · have hselected : (system.alone call).proceed call =
            (system.alone call).reach call.transaction
              (.selected (some value)) := by
          rw [System.proceed, hadmitted, hdb, hcommitted, locked_alone]
          exact if_neg hregression
        rw [Option.any_some, if_neg (by simpa using hregression),
          reached_alone hselected]
        exact checking_alone system
          { call with progress := .selected (some value) } (some value) rfl

/-- `advance_group_cursor` of a member as the choice its checks make. -/
theorem advanceGroupCursor_of_member {deviceId groupId : Id16} {cursor : ℤ}
    {db : Database} (hmember : assertActiveMember groupId deviceId db = .ok ()) :
    advanceGroupCursor deviceId groupId cursor db =
      if (committed db (deviceId, groupId)).any fun value => cursor < value then
        (.error .cursorRegression, db)
      else if available groupId db < cursor then (.error .invalidInput, db)
      else if !cursorAllowed ⟨deviceId, groupId, cursor⟩ db then
        (.error .database, db)
      else (.ok (), writeCursor ⟨deviceId, groupId, cursor⟩ db) := by
  unfold advanceGroupCursor
  split_ifs with hregression hbeyond hrefused
  · apply transaction_of_error
    simp only [hmember, hregression, if_true]
    rfl
  · apply transaction_of_error
    simp only [hmember, hregression, hbeyond, if_true]
    rfl
  · apply transaction_of_error
    simp only [hmember, hregression, hbeyond, hrefused, if_true]
    rfl
  · apply transaction_of_ok
    simp only [hmember, hregression, hbeyond, hrefused]
    rfl

/-- The statements of a call that nothing interrupts amount to
`advance_group_cursor`. -/
theorem uninterrupted_call (system : System) (transaction : ℕ)
    (deviceId groupId : Id16) (cursor : ℤ) (halone : system.calls = Table.empty) :
    run step system (.start transaction deviceId groupId cursor ::
        List.replicate 5 (.proceed transaction)) =
      system.answered transaction
        (advanceGroupCursor deviceId groupId cursor system.db) := by
  let call : Call := ⟨transaction, deviceId, groupId, cursor, .started⟩
  have hstart : step system (.start transaction deviceId groupId cursor) =
      system.alone call := by
    rw [step, halone]
    rfl
  rw [run_cons, hstart]
  cases hmember : assertActiveMember groupId deviceId system.db with
  | error failure =>
      have houtcome : advanceGroupCursor deviceId groupId cursor system.db =
          (.error failure, system.db) := by
        apply transaction_of_error
        rw [hmember]
        rfl
      have hrefused : (system.alone call).proceed call =
          (system.alone call).answer call.transaction (.error failure) := by
        simp only [System.proceed, System.alone, call, hmember]
      rw [houtcome]
      exact refused_alone hrefused 4
  | ok _ =>
      have hadmitted : (system.alone call).proceed call =
          (system.alone call).reach call.transaction .admitted := by
        simp only [System.proceed, System.alone, call, hmember]
      rw [advanceGroupCursor_of_member hmember]
      exact (reached_alone hadmitted 4).trans
        (selecting_alone system { call with progress := .admitted } rfl)

end ResilientMessenger.GroupCursors
