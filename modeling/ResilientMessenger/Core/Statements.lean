import ResilientMessenger.Core.Transaction

/-!
# Statements on a connection

A script is what a program does between two calls on its database connection:
statements, each of which may fail, with the decisions that depend on their
results.  A connection is in autocommit mode or inside an open transaction.
The outcome of a script also depends on a fault, the number of statements after
which one fails for a reason of its own.  `guarded` runs a script in a
transaction that is rolled back when it is dropped uncommitted, `batch` between
a `BEGIN` and a `COMMIT` that are plain statements.
-/

namespace ResilientMessenger.Statements

open ResilientMessenger.Transaction

inductive Script (ε σ α : Type) : Type 1 where
  | done (value : α)
  | fail (failure : ε)
  | execute {β : Type} (statement : σ → Except ε (β × σ))
      (next : β → Script ε σ α)

namespace Script

variable {ε σ α β : Type}

def bind : Script ε σ α → (α → Script ε σ β) → Script ε σ β
  | .done value, rest => rest value
  | .fail failure, _ => .fail failure
  | .execute statement next, rest =>
      .execute statement fun value => (next value).bind rest

instance : Monad (Script ε σ) where
  pure := .done
  bind := Script.bind

def statement (f : σ → Except ε (α × σ)) : Script ε σ α := .execute f .done

/-- A statement that reads. -/
def query (f : σ → α) : Script ε σ α := statement fun state => .ok (f state, state)

/-- A statement that writes and reports what it did. -/
def write (f : σ → α × σ) : Script ε σ α := statement fun state => .ok (f state)

/-- A statement that writes unless a constraint is violated. -/
def insert (f : σ → Except ε σ) : Script ε σ Unit :=
  statement fun state => (f state).map fun written => ((), written)

theorem statement_bind (f : σ → Except ε (α × σ)) (rest : α → Script ε σ β) :
    (statement f >>= rest) = .execute f rest := by
  change Script.bind (.execute f .done) rest = _
  simp only [Script.bind]

/-- What a script computes when every statement runs. -/
def denote : Script ε σ α → σ → Except ε (α × σ)
  | .done value, state => .ok (value, state)
  | .fail failure, _ => .error failure
  | .execute statement next, state =>
      match statement state with
      | .ok (value, written) => (next value).denote written
      | .error failure => .error failure

theorem denote_bind (script : Script ε σ α) (rest : α → Script ε σ β) (state : σ) :
    (script >>= rest).denote state =
      match script.denote state with
      | .ok (value, written) => (rest value).denote written
      | .error failure => .error failure := by
  change (Script.bind script rest).denote state = _
  induction script generalizing state with
  | done value => simp only [Script.bind, denote]
  | fail failure => simp only [Script.bind, denote]
  | execute statement next ih =>
      simp only [Script.bind, denote]
      cases statement state with
      | error failure => rfl
      | ok written => exact ih written.1 written.2

@[simp]
theorem denote_pure (value : α) (state : σ) :
    (pure value : Script ε σ α).denote state = .ok (value, state) := rfl

@[simp]
theorem denote_fail (failure : ε) (state : σ) :
    (fail failure : Script ε σ α).denote state = .error failure := rfl

@[simp]
theorem denote_statement (f : σ → Except ε (α × σ)) (state : σ) :
    (statement f).denote state = f state := by
  simp only [statement, denote]
  split <;> simp_all

@[simp]
theorem denote_query (f : σ → α) (state : σ) :
    (query f : Script ε σ α).denote state = .ok (f state, state) :=
  denote_statement _ state

@[simp]
theorem denote_write (f : σ → α × σ) (state : σ) :
    (write f : Script ε σ α).denote state = .ok (f state) :=
  denote_statement _ state

@[simp]
theorem denote_insert (f : σ → Except ε σ) (state : σ) :
    (insert f).denote state = (f state).map fun written => ((), written) :=
  denote_statement _ state

end Script

/-- What is committed, and what an open transaction has made of it. -/
structure Connection (σ : Type) where
  committed : σ
  working : Option σ

namespace Connection

variable {σ : Type}

/-- The contents that statements on this connection see. -/
def current (connection : Connection σ) : σ :=
  connection.working.getD connection.committed

def put (connection : Connection σ) (state : σ) : Connection σ :=
  match connection.working with
  | some _ => { connection with working := some state }
  | none => { connection with committed := state }

def rollback (connection : Connection σ) : Connection σ :=
  { connection with working := none }

end Connection

/-- The fault is the number of statements that still run before one fails; it
is gone once that has happened. -/
structure Outcome (ε σ α : Type) where
  result : Except ε α
  fault : Option ℕ
  connection : Connection σ

def Outcome.forget {ε σ α : Type} (outcome : Outcome ε σ α) : Outcome ε σ Unit :=
  { outcome with result := outcome.result.map fun _ => () }

/-- The fault after a statement that ran. -/
def passed : Option ℕ → Option ℕ
  | some (count + 1) => some count
  | _ => none

section Execution

variable {ε σ α : Type}

/-- Run the statements one by one; `failure` is how a fault is reported. -/
def Script.run (failure : ε) : Script ε σ α → Option ℕ → Connection σ →
    Outcome ε σ α
  | .done value, fault, connection => ⟨.ok value, fault, connection⟩
  | .fail refused, fault, connection => ⟨.error refused, fault, connection⟩
  | .execute statement next, fault, connection =>
      if fault = some 0 then ⟨.error failure, none, connection⟩
      else
        match statement connection.current with
        | .error refused => ⟨.error refused, passed fault, connection⟩
        | .ok (value, written) =>
            (next value).run failure (passed fault) (connection.put written)

/-- `BEGIN`, which is refused inside an open transaction. -/
def begin (failure : ε) (fault : Option ℕ) (connection : Connection σ) :
    Outcome ε σ Unit :=
  if fault = some 0 then ⟨.error failure, none, connection⟩
  else
    match connection.working with
    | some _ => ⟨.error failure, passed fault, connection⟩
    | none =>
        ⟨.ok (), passed fault, { connection with working := some connection.committed }⟩

/-- `COMMIT`, which leaves the transaction open when it fails. -/
def commit (failure : ε) (fault : Option ℕ) (connection : Connection σ) :
    Outcome ε σ Unit :=
  if fault = some 0 then ⟨.error failure, none, connection⟩
  else
    match connection.working with
    | none => ⟨.error failure, passed fault, connection⟩
    | some state => ⟨.ok (), passed fault, ⟨state, none⟩⟩

/-- `BEGIN`, the statements and `COMMIT` in one text: the first failure ends
it. -/
def batch (failure : ε) (script : Script ε σ α) (fault : Option ℕ)
    (connection : Connection σ) : Outcome ε σ α :=
  let opened := begin failure fault connection
  match opened.result with
  | .error refused => { opened with result := .error refused }
  | .ok _ =>
      let body := script.run failure opened.fault opened.connection
      match body.result with
      | .error _ => body
      | .ok value =>
          let closed := commit failure body.fault body.connection
          { closed with result := closed.result.map fun _ => value }

/-- A transaction object: once it has begun, every way out but a successful
commit rolls back. -/
def guarded (failure : ε) (script : Script ε σ α) (fault : Option ℕ)
    (connection : Connection σ) : Outcome ε σ α :=
  let opened := begin failure fault connection
  match opened.result with
  | .error refused => { opened with result := .error refused }
  | .ok _ =>
      let body := script.run failure opened.fault opened.connection
      match body.result with
      | .error _ => { body with connection := body.connection.rollback }
      | .ok value =>
          let closed := commit failure body.fault body.connection
          match closed.result with
          | .error refused =>
              { closed with
                result := .error refused
                connection := closed.connection.rollback }
          | .ok _ => { closed with result := .ok value }

/-! ## Connections -/

variable {failure : ε} {connection : Connection σ} {script : Script ε σ α}

@[simp]
theorem current_put (connection : Connection σ) (state : σ) :
    (connection.put state).current = state := by
  cases hworking : connection.working <;>
    simp [Connection.put, Connection.current, hworking]

@[simp]
theorem put_put (connection : Connection σ) (first second : σ) :
    (connection.put first).put second = connection.put second := by
  cases hworking : connection.working <;> simp [Connection.put, hworking]

@[simp]
theorem put_current (connection : Connection σ) :
    connection.put connection.current = connection := by
  rcases connection with ⟨committed, working⟩
  cases working <;> rfl

/-- Inside a transaction nothing is committed. -/
theorem put_inside (hopen : connection.working.isSome = true) (state : σ) :
    (connection.put state).working.isSome = true ∧
      (connection.put state).committed = connection.committed := by
  obtain ⟨working, hworking⟩ := Option.isSome_iff_exists.mp hopen
  simp [Connection.put, hworking]

theorem passed_of_ne_zero {index : ℕ} (hindex : some index ≠ some 0) :
    ∃ count, index = count + 1 ∧ passed (some index) = some count := by
  cases index with
  | zero => exact absurd rfl hindex
  | succ count => exact ⟨count, rfl, rfl⟩

/-! ## A script with a fault -/

theorem run_struck {β : Type} (f : σ → Except ε (β × σ))
    (next : β → Script ε σ α) (connection : Connection σ) :
    (Script.statement f >>= next).run failure (some 0) connection =
      ⟨.error failure, none, connection⟩ := by
  rw [Script.statement_bind, Script.run, if_pos rfl]

/-- A statement that is not the one to fail. -/
theorem run_statement {β : Type} (f : σ → Except ε (β × σ))
    (next : β → Script ε σ α) {fault : Option ℕ} (hfault : fault ≠ some 0)
    (connection : Connection σ) :
    (Script.statement f >>= next).run failure fault connection =
      match f connection.current with
      | .error refused => ⟨.error refused, passed fault, connection⟩
      | .ok (value, written) =>
          (next value).run failure (passed fault) (connection.put written) := by
  rw [Script.statement_bind, Script.run, if_neg hfault]

/-- A fault that happens is reported. -/
theorem run_fired {index : ℕ}
    (hfired : (script.run failure (some index) connection).fault = none) :
    ∃ refused, (script.run failure (some index) connection).result =
      .error refused := by
  induction script generalizing index connection with
  | done value => cases hfired
  | fail refused => exact ⟨refused, rfl⟩
  | execute statement next ih =>
      unfold Script.run at hfired ⊢
      by_cases hindex : some index = some 0
      · rw [if_pos hindex]
        exact ⟨failure, rfl⟩
      · rw [if_neg hindex] at hfired ⊢
        obtain ⟨count, -, hpassed⟩ := passed_of_ne_zero hindex
        rw [hpassed] at hfired ⊢
        cases hstatement : statement connection.current with
        | error refused => exact ⟨refused, rfl⟩
        | ok written =>
            rw [hstatement] at hfired
            exact ih written.1 hfired

/-- A script that succeeds has not met the fault. -/
theorem run_unfired {index : ℕ} {value : α}
    (hresult : (script.run failure (some index) connection).result = .ok value) :
    ∃ rest, (script.run failure (some index) connection).fault = some rest := by
  apply Option.ne_none_iff_exists'.mp
  intro hfired
  obtain ⟨refused, hrefused⟩ := run_fired hfired
  rw [hresult] at hrefused
  cases hrefused

/-- A script that runs inside a transaction stays inside it. -/
theorem run_inside (fault : Option ℕ)
    (hopen : connection.working.isSome = true) :
    (script.run failure fault connection).connection.working.isSome = true ∧
      (script.run failure fault connection).connection.committed =
        connection.committed := by
  induction script generalizing fault connection with
  | done value => exact ⟨hopen, rfl⟩
  | fail refused => exact ⟨hopen, rfl⟩
  | execute statement next ih =>
      unfold Script.run
      by_cases hfault : fault = some 0
      · rw [if_pos hfault]
        exact ⟨hopen, rfl⟩
      · rw [if_neg hfault]
        cases statement connection.current with
        | error refused => exact ⟨hopen, rfl⟩
        | ok written =>
            obtain ⟨hstill, hsame⟩ := put_inside hopen written.2
            obtain ⟨hinside, hcommitted⟩ :=
              ih written.1 (passed fault) hstill
            exact ⟨hinside, hcommitted.trans hsame⟩

/-- Without a fault a script computes what it denotes. -/
theorem run_of_denote_ok {value : α} {state : σ}
    (hdenote : script.denote connection.current = .ok (value, state)) :
    script.run failure none connection =
      ⟨.ok value, none, connection.put state⟩ := by
  induction script generalizing connection with
  | done other =>
      cases hdenote
      rw [put_current]
      rfl
  | fail refused => cases hdenote
  | execute statement next ih =>
      unfold Script.denote at hdenote
      unfold Script.run
      cases hstatement : statement connection.current with
      | error refused =>
          rw [hstatement] at hdenote
          cases hdenote
      | ok written =>
          rw [hstatement] at hdenote
          have hnext := @ih written.1 (connection.put written.2)
            (by rw [current_put]; exact hdenote)
          rw [put_put] at hnext
          exact hnext

theorem run_of_denote_error {refused : ε}
    (hdenote : script.denote connection.current = .error refused) :
    (script.run failure none connection).result = .error refused ∧
      (script.run failure none connection).fault = none := by
  induction script generalizing connection with
  | done other => cases hdenote
  | fail other =>
      cases hdenote
      exact ⟨rfl, rfl⟩
  | execute statement next ih =>
      unfold Script.denote at hdenote
      unfold Script.run
      cases hstatement : statement connection.current with
      | error other =>
          rw [hstatement] at hdenote
          cases hdenote
          exact ⟨rfl, rfl⟩
      | ok written =>
          rw [hstatement] at hdenote
          exact ih written.1 (by rw [current_put]; exact hdenote)

/-- A script that succeeds has computed what it denotes, whatever the fault. -/
theorem run_eq_ok {fault : Option ℕ} {value : α}
    (hresult : (script.run failure fault connection).result = .ok value) :
    ∃ state, script.denote connection.current = .ok (value, state) ∧
      (script.run failure fault connection).connection = connection.put state := by
  induction script generalizing fault connection with
  | done other =>
      cases hresult
      exact ⟨connection.current, rfl, (put_current connection).symm⟩
  | fail refused => cases hresult
  | execute statement next ih =>
      unfold Script.run at hresult ⊢
      unfold Script.denote
      by_cases hfault : fault = some 0
      · rw [if_pos hfault] at hresult
        cases hresult
      · rw [if_neg hfault] at hresult ⊢
        cases hstatement : statement connection.current with
        | error refused =>
            rw [hstatement] at hresult
            cases hresult
        | ok written =>
            rw [hstatement] at hresult
            obtain ⟨state, hdenote, hconnection⟩ := ih written.1 hresult
            rw [current_put] at hdenote
            rw [put_put] at hconnection
            exact ⟨state, hdenote, hconnection⟩

/-! ## Transactions -/

/-- A connection on which no transaction is open. -/
def Connection.idle (state : σ) : Connection σ := ⟨state, none⟩

/-- A connection on which a transaction has just begun. -/
def Connection.begun (state : σ) : Connection σ := ⟨state, some state⟩

theorem begin_idle {fault : Option ℕ} (hfault : fault ≠ some 0) (state : σ) :
    begin failure fault (.idle state) = ⟨.ok (), passed fault, .begun state⟩ :=
  if_neg hfault

theorem begin_struck (connection : Connection σ) :
    begin failure (some 0) connection = ⟨.error failure, none, connection⟩ := rfl

/-- A transaction that has begun has not met the fault. -/
theorem begin_unfired {index : ℕ} {value : Unit}
    (hresult : (begin failure (some index) connection).result = .ok value) :
    ∃ count, (begin failure (some index) connection).fault = some count := by
  unfold begin at hresult ⊢
  split at hresult
  · cases hresult
  case isFalse hindex =>
    obtain ⟨count, -, hpassed⟩ := passed_of_ne_zero hindex
    rw [if_neg hindex, hpassed]
    split <;> exact ⟨count, rfl⟩

/-- Inside an open transaction another cannot begin. -/
theorem begin_open (hopen : connection.working.isSome = true) (fault : Option ℕ) :
    ∃ rest, begin failure fault connection = ⟨.error failure, rest, connection⟩ := by
  obtain ⟨working, hworking⟩ := Option.isSome_iff_exists.mp hopen
  unfold begin
  by_cases hfault : fault = some 0
  · exact ⟨none, if_pos hfault⟩
  · refine ⟨passed fault, ?_⟩
    rw [if_neg hfault, hworking]

theorem commit_fired {index : ℕ}
    (hfired : (commit failure (some index) connection).fault = none) :
    commit failure (some index) connection =
      ⟨.error failure, none, connection⟩ := by
  unfold commit at hfired ⊢
  by_cases hindex : some index = some 0
  · exact if_pos hindex
  · rw [if_neg hindex] at hfired
    obtain ⟨count, -, hpassed⟩ := passed_of_ne_zero hindex
    rw [hpassed] at hfired
    split at hfired <;> cases hfired

theorem commit_of_error {fault : Option ℕ} {refused : ε}
    (hrefused : (commit failure fault connection).result = .error refused) :
    (commit failure fault connection).connection = connection := by
  unfold commit at hrefused ⊢
  split at hrefused
  case isTrue hfault => rw [if_pos hfault]
  case isFalse hfault =>
    rw [if_neg hfault]
    cases hworking : connection.working with
    | none => rfl
    | some state =>
        rw [hworking] at hrefused
        cases hrefused

/-- Inside an open transaction a transaction object is refused. -/
theorem guarded_open (hopen : connection.working.isSome = true)
    (fault : Option ℕ) :
    (guarded failure script fault connection).connection = connection := by
  obtain ⟨rest, hbegin⟩ := @begin_open _ _ failure connection hopen fault
  simp only [guarded, hbegin]

theorem idle_of_working (hclosed : connection.working = none) :
    connection = .idle connection.committed := by
  rcases connection with ⟨committed, working⟩
  cases hclosed
  rfl

theorem current_of_working (hclosed : connection.working = none) :
    connection.current = connection.committed := by
  rw [Connection.current, hclosed, Option.getD_none]

/-- A transaction object that returns an error leaves the connection as it
was. -/
theorem guarded_of_error {fault : Option ℕ} {refused : ε}
    (hrefused : (guarded failure script fault connection).result = .error refused) :
    (guarded failure script fault connection).connection = connection := by
  cases hworking : connection.working with
  | some working => exact guarded_open (hworking ▸ rfl) fault
  | none =>
      rw [idle_of_working hworking] at hrefused ⊢
      generalize connection.committed = state at hrefused ⊢
      unfold guarded at hrefused ⊢
      by_cases hfault : fault = some 0
      · rw [hfault, begin_struck]
      rw [begin_idle hfault] at hrefused ⊢
      have hinside :=
        (@run_inside _ _ _ failure (.begun state) script (passed fault) rfl).2
      dsimp only at hrefused ⊢
      cases hbody : (script.run failure (passed fault) (.begun state)).result with
      | error other =>
          simp only [Connection.rollback, hinside]
          rfl
      | ok value =>
          rw [hbody] at hrefused
          dsimp only at hrefused ⊢
          cases hcommit : (commit failure
              (script.run failure (passed fault) (.begun state)).fault
              (script.run failure (passed fault) (.begun state)).connection).result with
          | error other =>
              simp only [commit_of_error hcommit, Connection.rollback, hinside]
              rfl
          | ok closed =>
              rw [hcommit] at hrefused
              cases hrefused

/-- Whichever statement of a transaction object fails, the failure is reported
and nothing is left of it. -/
theorem guarded_fired {index : ℕ}
    (hfired : (guarded failure script (some index) connection).fault = none) :
    (∃ refused, (guarded failure script (some index) connection).result =
        .error refused) ∧
      (guarded failure script (some index) connection).connection = connection := by
  have hreported : ∃ refused,
      (guarded failure script (some index) connection).result = .error refused := by
    unfold guarded at hfired ⊢
    dsimp only at hfired ⊢
    cases hopened : (begin failure (some index) connection).result with
    | error refused => exact ⟨refused, rfl⟩
    | ok value =>
        rw [hopened] at hfired
        obtain ⟨count, hcount⟩ := begin_unfired hopened
        simp only [hcount] at hfired ⊢
        generalize (begin failure (some index) connection).connection = begun at hfired ⊢
        cases hbody : (script.run failure (some count) begun).result with
        | error refused => exact ⟨refused, rfl⟩
        | ok value =>
            obtain ⟨rest, hrest⟩ := run_unfired hbody
            rw [hbody, hrest] at hfired
            rw [hrest]
            have hcommit : (commit failure (some rest)
                (script.run failure (some count) begun).connection).fault = none := by
              revert hfired
              dsimp only
              split <;> exact id
            rw [commit_fired hcommit]
            exact ⟨failure, rfl⟩
  obtain ⟨refused, hresult⟩ := hreported
  exact ⟨⟨refused, hresult⟩, guarded_of_error hresult⟩

/-- A transaction object that succeeds has begun on an idle connection and
committed what its statements denote. -/
theorem guarded_eq_ok {fault : Option ℕ} {value : α}
    (hresult : (guarded failure script fault connection).result = .ok value) :
    connection.working = none ∧ ∃ state,
      script.denote connection.committed = .ok (value, state) ∧
      (guarded failure script fault connection).connection = .idle state := by
  cases hworking : connection.working with
  | some working =>
      obtain ⟨rest, hbegin⟩ :=
        @begin_open _ _ failure connection (hworking ▸ rfl) fault
      simp only [guarded, hbegin] at hresult
      cases hresult
  | none =>
      refine ⟨rfl, ?_⟩
      rw [idle_of_working hworking] at hresult ⊢
      generalize connection.committed = before at hresult ⊢
      unfold guarded at hresult ⊢
      by_cases hfault : fault = some 0
      · rw [hfault, begin_struck] at hresult
        cases hresult
      rw [begin_idle hfault] at hresult ⊢
      dsimp only at hresult ⊢
      cases hbody : (script.run failure (passed fault) (.begun before)).result with
      | error other =>
          rw [hbody] at hresult
          cases hresult
      | ok computed =>
          obtain ⟨state, hdenote, hconnection⟩ := run_eq_ok hbody
          rw [hbody, hconnection] at hresult
          rw [hconnection]
          dsimp only at hresult ⊢
          unfold commit at hresult ⊢
          by_cases hstruck : (script.run failure (passed fault)
              (.begun before)).fault = some 0
          · rw [if_pos hstruck] at hresult
            cases hresult
          · rw [if_neg hstruck] at hresult ⊢
            cases hresult
            exact ⟨state, hdenote, rfl⟩

/-- The statements of a transaction object amount to a transaction. -/
theorem guarded_faultless (state : σ) :
    guarded failure script none (.idle state) =
      ⟨(transaction state script.denote).1, none,
        .idle (transaction state script.denote).2⟩ := by
  unfold guarded
  rw [begin_idle (by simp)]
  cases hdenote : script.denote state with
  | error refused =>
      obtain ⟨hresult, hfault⟩ := @run_of_denote_error _ _ _ failure (.begun state)
        script refused hdenote
      have hinside := (@run_inside _ _ _ failure (.begun state) script none rfl).2
      rw [transaction_of_error hdenote]
      simp only [passed, hresult, Connection.rollback, hinside, hfault]
      rfl
  | ok outcome =>
      have hrun := @run_of_denote_ok _ _ _ failure (.begun state) script outcome.1
        outcome.2 hdenote
      rw [transaction_of_ok hdenote]
      simp only [passed, hrun]
      rfl

/-- A text whose `BEGIN` fails does nothing. -/
theorem batch_struck (script : Script ε σ α) (connection : Connection σ) :
    batch failure script (some 0) connection = ⟨.error failure, none, connection⟩ :=
  rfl

/-- A text of which a later statement fails leaves its transaction open. -/
theorem batch_left_open {state : σ} {count : ℕ}
    (hfired : (batch failure script (some (count + 1)) (.idle state)).fault =
      none) :
    (batch failure script (some (count + 1))
      (.idle state)).connection.working.isSome = true := by
  unfold batch at hfired ⊢
  rw [begin_idle (by simp)] at hfired ⊢
  simp only [passed] at hfired ⊢
  have hinside := (@run_inside _ _ _ failure (.begun state) script (some count) rfl).1
  cases hbody : (script.run failure (some count) (.begun state)).result with
  | error refused => exact hinside
  | ok value =>
      obtain ⟨rest, hrest⟩ := run_unfired hbody
      rw [hbody, hrest] at hfired
      rw [hrest, commit_fired hfired]
      exact hinside

theorem batch_open (hopen : connection.working.isSome = true) (fault : Option ℕ) :
    (batch failure script fault connection).connection = connection := by
  obtain ⟨rest, hbegin⟩ := @begin_open _ _ failure connection hopen fault
  simp only [batch, hbegin]

theorem batch_faultless {state written : σ} {value : α}
    (hdenote : script.denote state = .ok (value, written)) :
    batch failure script none (.idle state) =
      ⟨.ok value, none, .idle written⟩ := by
  have hrun := @run_of_denote_ok _ _ _ failure (.begun state) script value written
    hdenote
  unfold batch
  rw [begin_idle (by simp)]
  simp only [passed, hrun]
  rfl

end Execution

end ResilientMessenger.Statements
