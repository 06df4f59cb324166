import ResilientMessenger.Core.Runs
import ResilientMessenger.Identity.Payloads
import ResilientMessenger.Server.Schema

/-!
# Usernames

An account can hold one username at a time.  A name that is given up stays in its
table as released, next to an entry that says until when nobody may take it.  The
three calls that change these tables test for that in different ways; `Moved`
says what each of them does when it succeeds, and the rules of the directory
follow from it for every run.
-/

namespace ResilientMessenger.Usernames

open ResilientMessenger.ByteCodec
open ResilientMessenger.Identity
open ResilientMessenger.Schema
open ResilientMessenger.Transaction
open ResilientMessenger.Runs

structure UsernameRow where
  canonicalUsername : String
  accountId : Id32
  releasedAt : Option Time
  deriving DecidableEq

structure CooldownRow where
  canonicalUsername : String
  previousAccountId : Id32
  releaseAfter : Time
  deriving DecidableEq

/-- The tables of usernames and the accounts they refer to. -/
structure Names where
  accounts : Table AccountRow.accountId
  usernames : Table UsernameRow.canonicalUsername
  usernameCooldowns : Table CooldownRow.canonicalUsername
  deriving DecidableEq

/-- `interval '30 days'`. -/
def cooldownInterval : ℤ := seconds (30 * 24 * 60 * 60)

def isReserved (name : String) : Bool :=
  name ∈ ["admin", "support", "security", "resilient", "system"]

namespace Names

def initial (accounts : Table AccountRow.accountId) : Names where
  accounts := accounts
  usernames := Table.empty
  usernameCooldowns := Table.empty

/-! ## Statements -/

/-- The cooldown of the name is not over. -/
def coolsDown (names : Names) (now : Time) (name : String) : Bool :=
  (names.usernameCooldowns.lookup name).any fun row => now < row.releaseAfter

/-- The account holds a name. -/
def holdsName (names : Names) (accountId : Id32) : Bool :=
  names.usernames.rows.any fun row =>
    row.accountId = accountId ∧ row.releasedAt.isNone

/-- The name the account holds. -/
def current (names : Names) (accountId : Id32) : Option String :=
  (names.usernames.rows.find? fun row =>
    row.accountId = accountId ∧ row.releasedAt.isNone).map
      UsernameRow.canonicalUsername

/-- `INSERT INTO usernames`, subject to the reference to the account, the check of
the length and the unique index of active names. -/
def insertUsername (names : Names) (row : UsernameRow) : Except ApiError Names := do
  let usernames ← Database.insertInto names.usernames
    ((names.accounts.lookup row.accountId).isSome &&
      decide (3 ≤ row.canonicalUsername.length ∧ row.canonicalUsername.length ≤ 32) &&
      !names.holdsName row.accountId) row
  pure { names with usernames }

def release (now : Time) (row : UsernameRow) : UsernameRow :=
  { row with releasedAt := some now }

theorem canonicalUsername_release (now : Time) (row : UsernameRow) :
    (release now row).canonicalUsername = row.canonicalUsername := rfl

/-- `UPDATE usernames SET released_at=now() WHERE canonical_username=$1`. -/
def markReleased (names : Names) (now : Time) (name : String) : Names :=
  { names with
    usernames := names.usernames.modify name (fun _ => true) (release now)
      (canonicalUsername_release now) }

def restart (accountId : Id32) (releaseAfter : Time) (row : CooldownRow) : CooldownRow :=
  { row with previousAccountId := accountId, releaseAfter := releaseAfter }

theorem canonicalUsername_restart (accountId : Id32) (releaseAfter : Time)
    (row : CooldownRow) :
    (restart accountId releaseAfter row).canonicalUsername =
      row.canonicalUsername := rfl

/-- `INSERT INTO username_cooldowns … ON CONFLICT(canonical_username) DO UPDATE`. -/
def startCooldown (names : Names) (now : Time) (accountId : Id32) (name : String) :
    Except ApiError Names :=
  if (names.accounts.lookup accountId).isSome then
    .ok { names with
      usernameCooldowns := names.usernameCooldowns.upsert
        ⟨name, accountId, now + cooldownInterval⟩
        (restart accountId (now + cooldownInterval))
        (canonicalUsername_restart accountId (now + cooldownInterval)) }
  else .error .database

/-! ## Calls -/

def claimUsername (unicode : Unicode) (now : Time) (accountId : Id32)
    (requested : String) (names : Names) : Except ApiError String × Names :=
  match canonicalUsername unicode requested with
  | none => (.error .invalidInput, names)
  | some canonical =>
      if isReserved canonical then (.error .invalidInput, names)
      else
        transaction names fun names => do
          let names :=
            { names with
              usernames := names.usernames.delete fun row =>
                row.canonicalUsername = canonical ∧ row.releasedAt.isSome ∧
                  !names.coolsDown now canonical }
          if (names.usernames.lookup canonical).isSome ∨ names.holdsName accountId then
            .error .conflict
          let names ← names.insertUsername ⟨canonical, accountId, none⟩
          pure (canonical, names)

/-- Give up the name the account holds. -/
def giveUp (now : Time) (accountId : Id32) (name : String) (names : Names) :
    Except ApiError Names :=
  (names.markReleased now name).startCooldown now accountId name

def giveUpCurrent (now : Time) (accountId : Id32) (current : Option String)
    (names : Names) : Except ApiError Names :=
  match current with
  | some old => giveUp now accountId old names
  | none => .ok names

def changeUsername (unicode : Unicode) (now : Time) (accountId : Id32)
    (requested : String) (names : Names) : Except ApiError String × Names :=
  match canonicalUsername unicode requested with
  | none => (.error .invalidInput, names)
  | some next =>
      if isReserved next then (.error .invalidInput, names)
      else if names.current accountId = some next then (.ok next, names)
      else
        transaction names fun names => do
          let current := names.current accountId
          if (names.usernames.lookup next).any fun row =>
              row.releasedAt.isNone || names.coolsDown now next then .error .conflict
          let names :=
            { names with
              usernames := names.usernames.delete fun row =>
                row.canonicalUsername = next ∧ row.releasedAt.isSome }
          let names ← giveUpCurrent now accountId current names
          let names ← names.insertUsername ⟨next, accountId, none⟩
          pure (next, names)

def releaseUsername (now : Time) (accountId : Id32) (names : Names) :
    Except ApiError Unit × Names :=
  match names.current accountId with
  | none => (.error .invalidInput, names)
  | some current =>
      transaction names fun names => do
        let names ← giveUp now accountId current names
        pure ((), names)

def exactUsernameLookup (unicode : Unicode) (requested : String) (names : Names) :
    Except ApiError (Option Id32) :=
  match canonicalUsername unicode requested with
  | none => .error .invalidInput
  | some canonical =>
      .ok (((names.usernames.lookup canonical).filter fun row =>
        row.releasedAt.isNone).map UsernameRow.accountId)

end Names

/-! ## One call -/

inductive Operation where
  | claim (accountId : Id32) (requested : String)
  | change (accountId : Id32) (requested : String)
  | release (accountId : Id32)

def Operation.accountId : Operation → Id32
  | claim accountId _ => accountId
  | change accountId _ => accountId
  | release accountId => accountId

/-- A change or a release gives up the name the account holds. -/
def Operation.givesUp : Operation → Bool
  | claim _ _ => false
  | change _ _ => true
  | release _ => true

structure Call where
  now : Time
  operation : Operation

/-- The answer of a call, with the name it confirms, and the tables after it. -/
def perform (unicode : Unicode) (names : Names) (call : Call) :
    Except ApiError (Option String) × Names :=
  match call.operation with
  | .claim accountId requested =>
      let (result, after) := names.claimUsername unicode call.now accountId requested
      (result.map some, after)
  | .change accountId requested =>
      let (result, after) := names.changeUsername unicode call.now accountId requested
      (result.map some, after)
  | .release accountId =>
      let (result, after) := names.releaseUsername call.now accountId
      (result.map fun _ => none, after)

def step (unicode : Unicode) (names : Names) (call : Call) : Names :=
  (perform unicode names call).2

/-- What a successful call changes: the account gives up the name `released` and
takes the name `taken`. -/
structure Moved (now : Time) (accountId : Id32) (released taken : Option String)
    (names after : Names) : Prop where
  usernames : ∀ name, after.usernames.lookup name =
    if taken = some name then some ⟨name, accountId, none⟩
    else if released = some name then
      (names.usernames.lookup name).map (Names.release now)
    else names.usernames.lookup name
  cooldowns : ∀ name, after.usernameCooldowns.lookup name =
    if released = some name then
      some ⟨name, accountId, now + cooldownInterval⟩
    else names.usernameCooldowns.lookup name
  /-- A name is released by the account that holds it, and it holds no other. -/
  held : ∀ name, released = some name → names.current accountId = some name
  /-- A name is taken when it is new or released and cooled down. -/
  free : ∀ name, taken = some name → ∀ row, names.usernames.lookup name = some row →
    row.releasedAt.isSome = true ∧ names.coolsDown now name = false
  /-- Whoever takes a name holds none, but for the one given up. -/
  single : ∀ name, taken = some name → ∀ row ∈ names.usernames.rows,
    row.accountId = accountId → row.releasedAt = none →
      released = some row.canonicalUsername
  apart : ∀ name, taken = some name → released ≠ some name

section Calls

variable {unicode : Unicode} {now : Time} {accountId : Id32} {names : Names}

theorem current_eq_some {name : String} (hcurrent : names.current accountId = some name) :
    ∃ row, names.usernames.lookup name = some row ∧ row.accountId = accountId ∧
      row.releasedAt = none := by
  obtain ⟨row, hrow, rfl⟩ := Option.map_eq_some_iff.mp hcurrent
  have htested := List.find?_some hrow
  simp only [decide_eq_true_eq, Option.isNone_iff_eq_none] at htested
  exact ⟨row, Table.mem_rows_iff.mp (List.mem_of_find?_eq_some hrow), htested⟩

theorem holdsName_eq_false {accountId : Id32} :
    names.holdsName accountId = false ↔ ∀ row ∈ names.usernames.rows,
      row.accountId = accountId → row.releasedAt ≠ none := by
  simp [Names.holdsName]

theorem insertUsername_eq_ok {row : UsernameRow} {after : Names}
    (hinsert : names.insertUsername row = .ok after) :
    names.holdsName row.accountId = false ∧
      ∃ usernames, after = { names with usernames } ∧
        names.usernames.insert? row = some usernames := by
  obtain ⟨usernames, hinto, hafter⟩ := bind_eq_ok.mp hinsert
  obtain ⟨hallowed, hrows⟩ := Database.insertInto_eq_ok.mp hinto
  simp only [Bool.and_eq_true, Bool.not_eq_true'] at hallowed
  exact ⟨hallowed.2, usernames, (pure_eq_ok.mp hafter).symm, hrows⟩

theorem startCooldown_eq_ok {name : String} {after : Names}
    (hstart : names.startCooldown now accountId name = .ok after) :
    after.usernames = names.usernames ∧
      ∀ other, after.usernameCooldowns.lookup other =
        if other = name then some ⟨name, accountId, now + cooldownInterval⟩
        else names.usernameCooldowns.lookup other := by
  unfold Names.startCooldown at hstart
  split at hstart
  case isFalse => cases hstart
  case isTrue =>
    cases hstart
    refine ⟨rfl, ?_⟩
    intro other
    rw [Table.lookup_upsert]
    split
    case isFalse => rfl
    case isTrue hother =>
      subst hother
      cases hlookup : names.usernameCooldowns.lookup other with
      | none => rfl
      | some row =>
          have hkey := Table.key_of_lookup hlookup
          simp [Names.restart, hkey]

theorem giveUp_eq_ok {name : String} {after : Names}
    (hgive : Names.giveUp now accountId name names = .ok after) :
    (∀ other, after.usernames.lookup other =
        if some name = some other then
          (names.usernames.lookup other).map (Names.release now)
        else names.usernames.lookup other) ∧
      ∀ other, after.usernameCooldowns.lookup other =
        if some name = some other then some ⟨other, accountId, now + cooldownInterval⟩
        else names.usernameCooldowns.lookup other := by
  obtain ⟨husernames, hcooldowns⟩ := startCooldown_eq_ok hgive
  constructor
  · intro other
    rw [husernames, Names.markReleased, Table.lookup_modify]
    by_cases hname : other = name
    · subst hname
      simp
    · have hother : name ≠ other := Ne.symm hname
      simp [hname, hother]
  · intro other
    rw [hcooldowns, Names.markReleased]
    by_cases hname : other = name
    · subst hname
      simp
    · have hother : name ≠ other := Ne.symm hname
      simp [hname, hother]

/-- Giving up the current name, if there is one. -/
theorem giveUpCurrent_eq_ok {after : Names} {current : Option String}
    (hgive : Names.giveUpCurrent now accountId current names = .ok after) :
    (∀ name, after.usernames.lookup name =
        if current = some name then
          (names.usernames.lookup name).map (Names.release now)
        else names.usernames.lookup name) ∧
      ∀ name, after.usernameCooldowns.lookup name =
        if current = some name then some ⟨name, accountId, now + cooldownInterval⟩
        else names.usernameCooldowns.lookup name := by
  cases current with
  | none =>
      cases hgive
      simp
  | some old => exact giveUp_eq_ok hgive

/-- A deletion of released rows under one name leaves the other names alone. -/
theorem lookup_delete_other {table : Table UsernameRow.canonicalUsername}
    (name : String) {other : String} {cond : UsernameRow → Bool}
    (hcond : ∀ row, cond row = true → row.canonicalUsername = name)
    (hother : other ≠ name) : (table.delete cond).lookup other = table.lookup other := by
  rw [Table.lookup_delete]
  cases hlookup : table.lookup other with
  | none => rfl
  | some row =>
      have hkept : cond row = false := by
        rw [Bool.eq_false_iff]
        intro hdeleted
        exact hother ((Table.key_of_lookup hlookup).symm.trans (hcond row hdeleted))
      simp [hkept]

/-- Inserting the name of the account after a deletion that made room for it. -/
theorem lookup_inserted {table usernames : Table UsernameRow.canonicalUsername}
    {canonical : String} (hinsert : table.insert? ⟨canonical, accountId, none⟩ =
      some usernames) (name : String) :
    usernames.lookup name =
      if some canonical = some name then some ⟨name, accountId, none⟩
      else table.lookup name := by
  rw [Table.lookup_insert? hinsert]
  by_cases hname : name = canonical
  · subst hname
    simp
  · have hother : canonical ≠ name := fun hsame => hname hsame.symm
    simp [hname, hother]

/-- The row under a name is gone after a deletion only if the deletion selects
it. -/
theorem deleted_of_lookup {table : Table UsernameRow.canonicalUsername}
    {cond : UsernameRow → Bool} {name : String} {row : UsernameRow}
    (hrow : table.lookup name = some row)
    (hgone : (table.delete cond).lookup name = none) : cond row = true := by
  rw [Table.lookup_delete, hrow] at hgone
  simpa using hgone

/-- Released rows under the name are deleted, the account gives up what it holds,
and the name is inserted for it. -/
theorem moved_of_insert {canonical : String} {released : Option String}
    {cond : UsernameRow → Bool} {cleared after : Names}
    (hcond : ∀ row, cond row = true →
      row.canonicalUsername = canonical ∧ row.releasedAt.isSome = true)
    (hgive : Names.giveUpCurrent now accountId released
      { names with usernames := names.usernames.delete cond } = .ok cleared)
    (hinsert : cleared.insertUsername ⟨canonical, accountId, none⟩ = .ok after)
    (hheld : ∀ name, released = some name → names.current accountId = some name)
    (hfree : ∀ row, names.usernames.lookup canonical = some row →
      row.releasedAt.isSome = true ∧ names.coolsDown now canonical = false)
    (hapart : released ≠ some canonical) :
    Moved now accountId released (some canonical) names after := by
  obtain ⟨husernames, hcooldowns⟩ := giveUpCurrent_eq_ok hgive
  obtain ⟨hholds, usernames, rfl, hrows⟩ := insertUsername_eq_ok hinsert
  refine ⟨?_, hcooldowns, hheld, ?_, ?_, ?_⟩
  · intro name
    rw [lookup_inserted hrows, husernames]
    by_cases hname : some canonical = some name
    · rw [if_pos hname, if_pos hname]
    · have hdeleted : (names.usernames.delete cond).lookup name =
          names.usernames.lookup name := by
        apply lookup_delete_other canonical (fun row hrow => (hcond row hrow).1)
        exact fun hsame => hname (congrArg some hsame.symm)
      rw [if_neg hname, if_neg hname, hdeleted]
  · rintro name ⟨rfl⟩
    exact hfree
  · rintro name ⟨rfl⟩ row hrow haccount hactive
    by_contra hkept
    -- an active row is not deleted, so the account would still hold it
    have hstays : cond row = false := by
      rw [Bool.eq_false_iff]
      intro hdeleted
      have hreleased := (hcond row hdeleted).2
      rw [hactive] at hreleased
      cases hreleased
    have hstill := husernames row.canonicalUsername
    rw [if_neg hkept, Table.lookup_delete, Table.mem_rows_iff.mp hrow] at hstill
    rw [Option.filter_some, hstays] at hstill
    exact holdsName_eq_false.mp hholds row (Table.mem_of_lookup hstill) haccount hactive
  · rintro name ⟨rfl⟩
    exact hapart

theorem claimUsername_cases (unicode : Unicode) (now : Time) (accountId : Id32)
    (requested : String) (names : Names) :
    (∃ failure, names.claimUsername unicode now accountId requested =
        (.error failure, names)) ∨
      ∃ canonical after, canonicalUsername unicode requested = some canonical ∧
        names.claimUsername unicode now accountId requested = (.ok canonical, after) ∧
        Moved now accountId none (some canonical) names after := by
  unfold Names.claimUsername
  cases hcanonical : canonicalUsername unicode requested with
  | none => exact .inl ⟨_, rfl⟩
  | some canonical =>
      dsimp only
      split
      · exact .inl ⟨_, rfl⟩
      rcases transaction_cases names _ with ⟨failure, hfailure⟩ |
        ⟨value, after, hbody, hcommit⟩
      · exact .inl ⟨failure, hfailure⟩
      rw [hcommit]
      split at hbody
      · cases hbody
      obtain ⟨inserted, hinsert, hpure⟩ := bind_eq_ok.mp hbody
      cases hpure
      obtain ⟨-, usernames, -, hrows⟩ := insertUsername_eq_ok hinsert
      have hgone := (Table.insert?_eq_some_iff.mp hrows).1
      refine .inr ⟨canonical, after, rfl, rfl, moved_of_insert ?_ rfl hinsert ?_ ?_ ?_⟩
      · intro row hdeleted
        have htested := of_decide_eq_true hdeleted
        exact ⟨htested.1, htested.2.1⟩
      · intro name hnone
        cases hnone
      · intro row hrow
        have hdeleted := of_decide_eq_true (deleted_of_lookup hrow hgone)
        exact ⟨hdeleted.2.1, by simpa using hdeleted.2.2⟩
      · simp

theorem changeUsername_cases (unicode : Unicode) (now : Time) (accountId : Id32)
    (requested : String) (names : Names) :
    (∃ failure, names.changeUsername unicode now accountId requested =
        (.error failure, names)) ∨
      ∃ next, canonicalUsername unicode requested = some next ∧
        ((names.current accountId = some next ∧
            names.changeUsername unicode now accountId requested = (.ok next, names)) ∨
          ∃ after, names.changeUsername unicode now accountId requested =
              (.ok next, after) ∧
            Moved now accountId (names.current accountId) (some next) names after) := by
  unfold Names.changeUsername
  cases hcanonical : canonicalUsername unicode requested with
  | none => exact .inl ⟨_, rfl⟩
  | some next =>
      dsimp only
      split
      · exact .inl ⟨_, rfl⟩
      split
      case isTrue hsame => exact .inr ⟨next, rfl, .inl ⟨hsame, rfl⟩⟩
      case isFalse hother =>
        rcases transaction_cases names _ with ⟨failure, hfailure⟩ |
          ⟨value, after, hbody, hcommit⟩
        · exact .inl ⟨failure, hfailure⟩
        rw [hcommit]
        split at hbody
        · cases hbody
        case isFalse havailable =>
        obtain ⟨cleared, hgive, hbody⟩ := bind_eq_ok.mp hbody
        obtain ⟨inserted, hinsert, hpure⟩ := bind_eq_ok.mp hbody
        cases hpure
        refine .inr ⟨next, rfl, .inr ⟨after, rfl,
          moved_of_insert ?_ hgive hinsert (fun _ hcurrent => hcurrent) ?_ hother⟩⟩
        · intro row hdeleted
          exact of_decide_eq_true hdeleted
        · intro row hrow
          rw [hrow, Option.any_some, Bool.not_eq_true, Bool.or_eq_false_iff,
            Option.isNone_eq_false_iff] at havailable
          exact havailable

theorem releaseUsername_cases (now : Time) (accountId : Id32) (names : Names) :
    (∃ failure, names.releaseUsername now accountId = (.error failure, names)) ∨
      ∃ name after, names.current accountId = some name ∧
        names.releaseUsername now accountId = (.ok (), after) ∧
        Moved now accountId (some name) none names after := by
  unfold Names.releaseUsername
  cases hcurrent : names.current accountId with
  | none => exact .inl ⟨_, rfl⟩
  | some name =>
      rcases transaction_cases names _ with ⟨failure, hfailure⟩ |
        ⟨value, after, hbody, hcommit⟩
      · exact .inl ⟨failure, hfailure⟩
      obtain ⟨given, hgive, hpure⟩ := bind_eq_ok.mp hbody
      cases hpure
      obtain ⟨husernames, hcooldowns⟩ := giveUp_eq_ok hgive
      refine .inr ⟨name, after, rfl, hcommit, ?_⟩
      refine ⟨?_, hcooldowns, ?_, fun _ hnone => (by cases hnone),
        fun _ hnone => (by cases hnone), fun _ hnone => (by cases hnone)⟩
      · intro other
        rw [husernames other, if_neg (by simp : ¬none = some other)]
      · rintro other ⟨rfl⟩
        exact hcurrent

/-- All that a call can do: fail without a trace, confirm the name the account
holds, or move the account from one name to another. -/
theorem perform_cases (unicode : Unicode) (names : Names) (call : Call) :
    (∃ failure, perform unicode names call = (.error failure, names)) ∨
      (∃ name, names.current call.operation.accountId = some name ∧
        perform unicode names call = (.ok (some name), names)) ∨
      ∃ released taken after, perform unicode names call = (.ok taken, after) ∧
        Moved call.now call.operation.accountId released taken names after ∧
        (call.operation.givesUp = true →
          released = names.current call.operation.accountId) := by
  obtain ⟨now, operation⟩ := call
  cases operation with
  | claim accountId requested =>
      rcases claimUsername_cases unicode now accountId requested names with
        ⟨failure, hclaim⟩ | ⟨canonical, after, -, hclaim, hmoved⟩
      · exact .inl ⟨failure, by simp only [perform, hclaim, Except.map]⟩
      · exact .inr (.inr ⟨none, some canonical, after,
          by simp only [perform, hclaim, Except.map], hmoved,
          fun hgives => (by cases hgives)⟩)
  | change accountId requested =>
      rcases changeUsername_cases unicode now accountId requested names with
        ⟨failure, hchange⟩ | ⟨next, -, ⟨hcurrent, hchange⟩ | ⟨after, hchange, hmoved⟩⟩
      · exact .inl ⟨failure, by simp only [perform, hchange, Except.map]⟩
      · exact .inr (.inl ⟨next, hcurrent, by simp only [perform, hchange, Except.map]⟩)
      · exact .inr (.inr ⟨_, some next, after,
          by simp only [perform, hchange, Except.map], hmoved, fun _ => rfl⟩)
  | release accountId =>
      rcases releaseUsername_cases now accountId names with
        ⟨failure, hrelease⟩ | ⟨name, after, hcurrent, hrelease, hmoved⟩
      · exact .inl ⟨failure, by simp only [perform, hrelease, Except.map]⟩
      · exact .inr (.inr ⟨some name, none, after,
          by simp only [perform, hrelease, Except.map], hmoved, fun _ => hcurrent.symm⟩)

end Calls

/-! ## One name for each account -/

/-- No account holds two names. -/
def OneName (names : Names) : Prop :=
  ∀ row ∈ names.usernames.rows, ∀ other ∈ names.usernames.rows,
    row.releasedAt = none → other.releasedAt = none →
      row.accountId = other.accountId → row = other

section Steps

variable {unicode : Unicode} {now : Time} {accountId : Id32}
  {released taken : Option String} {names after : Names}

/-- An active row after a move is the name that was taken, or a row from before
that was not given up. -/
theorem Moved.active (hmoved : Moved now accountId released taken names after)
    {row : UsernameRow} (hrow : row ∈ after.usernames.rows)
    (hactive : row.releasedAt = none) :
    (taken = some row.canonicalUsername ∧ row.accountId = accountId) ∨
      (row ∈ names.usernames.rows ∧ released ≠ some row.canonicalUsername) := by
  have hlookup := Table.mem_rows_iff.mp hrow
  rw [hmoved.usernames] at hlookup
  split at hlookup
  case isTrue htaken =>
    refine .inl ⟨htaken, ?_⟩
    rw [← Option.some.inj hlookup]
  case isFalse =>
    split at hlookup
    case isTrue =>
      obtain ⟨old, -, rfl⟩ := Option.map_eq_some_iff.mp hlookup
      cases hactive
    case isFalse hkept => exact .inr ⟨Table.mem_of_lookup hlookup, hkept⟩

theorem oneName_moved (hone : OneName names)
    (hmoved : Moved now accountId released taken names after) : OneName after := by
  -- whoever takes a name has given up the one it held
  have hnew {row other : UsernameRow} (htaken : taken = some row.canonicalUsername)
      (haccount : row.accountId = accountId) (hother : other ∈ names.usernames.rows)
      (hactive : other.releasedAt = none)
      (hkept : released ≠ some other.canonicalUsername)
      (hsame : row.accountId = other.accountId) : False :=
    hkept (hmoved.single _ htaken other hother (hsame.symm.trans haccount) hactive)
  intro row hrow other hother hrowActive hotherActive hsame
  rcases hmoved.active hrow hrowActive with ⟨htaken, haccount⟩ | ⟨hrowBefore, hrowKept⟩
  · rcases hmoved.active hother hotherActive with ⟨hagain, -⟩ | ⟨hotherBefore, hkept⟩
    · have hname : row.canonicalUsername = other.canonicalUsername :=
        Option.some.inj (htaken.symm.trans hagain)
      have hlookup := Table.mem_rows_iff.mp hrow
      rw [hname, Table.mem_rows_iff.mp hother] at hlookup
      exact (Option.some.inj hlookup).symm
    · exact (hnew htaken haccount hotherBefore hotherActive hkept hsame).elim
  · rcases hmoved.active hother hotherActive with ⟨htaken, haccount⟩ | ⟨hotherBefore, -⟩
    · exact (hnew htaken haccount hrowBefore hrowActive hrowKept hsame.symm).elim
    · exact hone row hrowBefore other hotherBefore hrowActive hotherActive hsame

theorem oneName_step (hone : OneName names) (call : Call) :
    OneName (step unicode names call) := by
  unfold step
  rcases perform_cases unicode names call with ⟨failure, hcall⟩ | ⟨name, -, hcall⟩ |
    ⟨released, taken, after, hcall, hmoved, -⟩
  · rw [hcall]
    exact hone
  · rw [hcall]
    exact hone
  · rw [hcall]
    exact oneName_moved hone hmoved

/-! ## Released names -/

/-- The name is released and nobody may take it before the deadline. -/
def Withheld (name : String) (deadline : Time) (names : Names) : Prop :=
  (∃ row, names.usernames.lookup name = some row ∧ row.releasedAt.isSome = true) ∧
    ∃ cooldown, names.usernameCooldowns.lookup name = some cooldown ∧
      deadline ≤ cooldown.releaseAfter

variable {name : String} {deadline : Time}

theorem Withheld.not_current (hwithheld : Withheld name deadline names)
    (accountId : Id32) : names.current accountId ≠ some name := by
  intro hcurrent
  obtain ⟨⟨row, hrow, hreleased⟩, -⟩ := hwithheld
  obtain ⟨active, hactive, -, hnone⟩ := current_eq_some hcurrent
  rw [hrow] at hactive
  cases hactive
  simp [hnone] at hreleased

/-- Before the deadline the name is not taken and stays withheld. -/
theorem withheld_moved (hwithheld : Withheld name deadline names)
    (hnow : now < deadline)
    (hmoved : Moved now accountId released taken names after) :
    taken ≠ some name ∧ Withheld name deadline after := by
  have hreleased : released ≠ some name := fun hgiven =>
    hwithheld.not_current accountId (hmoved.held name hgiven)
  obtain ⟨⟨row, hrow, hout⟩, cooldown, hcooldown, hdeadline⟩ := hwithheld
  have htaken : taken ≠ some name := by
    intro htaken
    have hover := (hmoved.free name htaken row hrow).2
    simp only [Names.coolsDown, hcooldown, Option.any_some, decide_eq_false_iff_not]
      at hover
    exact hover (hnow.trans_le hdeadline)
  refine ⟨htaken, ⟨row, ?_, hout⟩, cooldown, ?_, hdeadline⟩
  · rw [hmoved.usernames, if_neg htaken, if_neg hreleased, hrow]
  · rw [hmoved.cooldowns, if_neg hreleased, hcooldown]

/-- A call before the deadline does not give the name to anybody. -/
theorem withheld_step (hwithheld : Withheld name deadline names) {call : Call}
    (hnow : call.now < deadline) :
    (perform unicode names call).1 ≠ .ok (some name) ∧
      Withheld name deadline (step unicode names call) := by
  unfold step
  rcases perform_cases unicode names call with ⟨failure, hcall⟩ |
    ⟨own, hcurrent, hcall⟩ | ⟨released, taken, after, hcall, hmoved, -⟩
  · rw [hcall]
    exact ⟨by simp, hwithheld⟩
  · rw [hcall]
    refine ⟨?_, hwithheld⟩
    intro hname
    simp only [Except.ok.injEq, Option.some.injEq] at hname
    rw [hname] at hcurrent
    exact hwithheld.not_current _ hcurrent
  · rw [hcall]
    obtain ⟨htaken, hafter⟩ := withheld_moved hwithheld hnow hmoved
    exact ⟨fun hname => htaken (Except.ok.inj hname), hafter⟩

theorem withheld_run (hwithheld : Withheld name deadline names) {calls : List Call}
    (hcalls : ∀ call ∈ calls, call.now < deadline) :
    Withheld name deadline (run (step unicode) names calls) := by
  induction calls generalizing names with
  | nil => exact hwithheld
  | cons call calls ih =>
      rw [List.forall_mem_cons] at hcalls
      exact ih (withheld_step hwithheld hcalls.1).2 hcalls.2

/-- A name given up is withheld for thirty days. -/
theorem withheld_of_released (hmoved : Moved now accountId released taken names after)
    (hreleased : released = some name) :
    Withheld name (now + cooldownInterval) after := by
  obtain ⟨row, hrow, -, -⟩ := current_eq_some (hmoved.held name hreleased)
  have htaken : taken ≠ some name := fun htaken => hmoved.apart name htaken hreleased
  refine ⟨⟨Names.release now row, ?_, rfl⟩,
    ⟨name, accountId, now + cooldownInterval⟩, ?_, le_rfl⟩
  · rw [hmoved.usernames, if_neg htaken, if_pos hreleased, hrow]
    rfl
  · rw [hmoved.cooldowns, if_pos hreleased]

theorem lookup_withheld (hwithheld : Withheld name deadline names) {requested : String}
    (hcanonical : canonicalUsername unicode requested = some name) :
    names.exactUsernameLookup unicode requested = .ok none := by
  obtain ⟨⟨row, hrow, hreleased⟩, -⟩ := hwithheld
  have hactive : row.releasedAt ≠ none := Option.isSome_iff_ne_none.mp hreleased
  simp [Names.exactUsernameLookup, hcanonical, hrow, hactive]

end Steps

/-! ## Runs -/

/-- The call gives up the name: a release by its owner, or a change of its owner to
another name. -/
def Releases (unicode : Unicode) (names : Names) (call : Call) (name : String) : Prop :=
  call.operation.givesUp = true ∧
    names.current call.operation.accountId = some name ∧
    ∃ confirmed after, perform unicode names call = (.ok confirmed, after) ∧
      confirmed ≠ some name

theorem withheld_of_releases {unicode : Unicode} {names : Names} {call : Call}
    {name : String} (hreleases : Releases unicode names call name) :
    Withheld name (call.now + cooldownInterval) (step unicode names call) := by
  obtain ⟨hgives, hcurrent, confirmed, after, hperform, hother⟩ := hreleases
  rcases perform_cases unicode names call with ⟨failure, hcall⟩ | ⟨own, hown, hcall⟩ |
    ⟨released, taken, moved, hcall, hmoved, hreleased⟩
  · rw [hcall] at hperform
    cases hperform
  · rw [hcall] at hperform
    cases hperform
    rw [hcurrent] at hown
    exact absurd hown.symm hother
  · rw [step, hcall]
    exact withheld_of_released hmoved ((hreleased hgives).trans hcurrent)

/-- The rules of the username tables along a run. -/
structure RulesKept (unicode : Unicode) (start : Names) (calls : List Call) : Prop where
  oneName : OneName (run (step unicode) start calls)
  /-- No name has two active owners. -/
  oneOwner : ∀ row ∈ (run (step unicode) start calls).usernames.rows,
    ∀ other ∈ (run (step unicode) start calls).usernames.rows,
      row.canonicalUsername = other.canonicalUsername → row = other
  /-- A lookup finds the active owner and nobody else. -/
  found : ∀ requested canonical, canonicalUsername unicode requested = some canonical →
    ∃ found, (run (step unicode) start calls).exactUsernameLookup unicode requested =
        .ok found ∧
      ∀ owner, found = some owner ↔
        ∃ row ∈ (run (step unicode) start calls).usernames.rows,
          row.canonicalUsername = canonical ∧ row.releasedAt = none ∧
            row.accountId = owner
  /-- For thirty days nobody gets a name that was given up. -/
  withheld : ∀ before call between next after name,
    calls = before ++ call :: (between ++ next :: after) →
      Releases unicode (run (step unicode) start before) call name →
      next.now < call.now + cooldownInterval →
        (perform unicode (run (step unicode) start (before ++ call :: between))
          next).1 ≠ .ok (some name)
  /-- For thirty days nobody is found under a name that was given up. -/
  hidden : ∀ before call between name requested, calls = before ++ call :: between →
    Releases unicode (run (step unicode) start before) call name →
      (∀ later ∈ between, later.now < call.now + cooldownInterval) →
      canonicalUsername unicode requested = some name →
        (run (step unicode) start calls).exactUsernameLookup unicode requested =
          .ok none
  /-- A call that fails changes nothing. -/
  refused : ∀ before call after failure, calls = before ++ call :: after →
    (perform unicode (run (step unicode) start before) call).1 = .error failure →
      step unicode (run (step unicode) start before) call =
        run (step unicode) start before

theorem oneName_run (unicode : Unicode) (accounts : Table AccountRow.accountId)
    (calls : List Call) :
    OneName (run (step unicode) (Names.initial accounts) calls) := by
  have hstep (names : Names) (call : Call) (hone : OneName names) :
      OneName (step unicode names call) := oneName_step hone call
  have hstart : OneName (Names.initial accounts) := by
    intro row hrow
    cases hrow
  exact run_invariant (P := OneName) hstep hstart calls

theorem lookup_found {unicode : Unicode} {names : Names} {requested canonical : String}
    (hcanonical : canonicalUsername unicode requested = some canonical) :
    ∃ found, names.exactUsernameLookup unicode requested = .ok found ∧
      ∀ owner, found = some owner ↔ ∃ row ∈ names.usernames.rows,
        row.canonicalUsername = canonical ∧ row.releasedAt = none ∧
          row.accountId = owner := by
  refine ⟨((names.usernames.lookup canonical).filter fun row =>
    row.releasedAt.isNone).map UsernameRow.accountId, ?_, ?_⟩
  · simp only [Names.exactUsernameLookup, hcanonical]
  intro owner
  simp only [Option.map_eq_some_iff, Option.filter_eq_some_iff,
    Table.lookup_eq_some_iff, Option.isNone_iff_eq_none]
  constructor
  · rintro ⟨row, ⟨⟨hrow, hname⟩, hactive⟩, howner⟩
    exact ⟨row, hrow, hname, hactive, howner⟩
  · rintro ⟨row, hrow, hname, hactive, howner⟩
    exact ⟨row, ⟨⟨hrow, hname⟩, hactive⟩, howner⟩

/-- Starting from empty tables, every run of claims, changes and releases with a
clock that does not go back keeps the rules. -/
theorem username_rules_kept (unicode : Unicode) (accounts : Table AccountRow.accountId)
    (calls : List Call) (hclock : (calls.map Call.now).Pairwise (· ≤ ·)) :
    RulesKept unicode (Names.initial accounts) calls where
  oneName := oneName_run unicode accounts calls
  oneOwner := by
    intro row hrow other hother hname
    have hlookup := Table.mem_rows_iff.mp hrow
    rw [hname, Table.mem_rows_iff.mp hother] at hlookup
    exact (Option.some.inj hlookup).symm
  found := fun _ _ hcanonical => lookup_found hcanonical
  withheld := by
    rintro before call between next after name rfl hreleases hnext
    have hbetween : ∀ later ∈ between, later.now < call.now + cooldownInterval := by
      intro later hlater
      rw [List.pairwise_map, List.pairwise_append, List.pairwise_cons,
        List.pairwise_append] at hclock
      have horder := hclock.2.1.2.2.2 later hlater next List.mem_cons_self
      exact lt_of_le_of_lt horder hnext
    rw [run_append, run_cons]
    exact (withheld_step (withheld_run (withheld_of_releases hreleases) hbetween)
      hnext).1
  hidden := by
    rintro before call between name requested rfl hreleases hbetween hcanonical
    rw [run_append, run_cons]
    exact lookup_withheld (withheld_run (withheld_of_releases hreleases) hbetween)
      hcanonical
  refused := by
    intro before call after failure _ hfailure
    rcases perform_cases unicode (run (step unicode) (Names.initial accounts) before) call
      with ⟨early, hcall⟩ | ⟨name, -, hcall⟩ | ⟨released, taken, moved, hcall, -⟩
    · rw [step, hcall]
    · rw [hcall] at hfailure
      cases hfailure
    · rw [hcall] at hfailure
      cases hfailure

def twoAccounts : Table AccountRow.accountId :=
  ⟨[⟨FixedBytes.fill 32 1, FixedBytes.fill 32 2, none, none⟩,
    ⟨FixedBytes.fill 32 3, FixedBytes.fill 32 4, none, none⟩], by decide⟩

/-- The first account gives its name up, and the second asks for it a second before
the thirty days are over and again when they are. -/
def handOver : List Call :=
  [⟨0, .claim (FixedBytes.fill 32 1) "Anna"⟩,
    ⟨seconds 1, .release (FixedBytes.fill 32 1)⟩,
    ⟨cooldownInterval, .claim (FixedBytes.fill 32 3) "anna"⟩,
    ⟨seconds 1 + cooldownInterval, .change (FixedBytes.fill 32 3) "anna"⟩]

theorem hand_over_keeps_rules :
    RulesKept Unicode.ascii (Names.initial twoAccounts) handOver ∧
      (run (step Unicode.ascii) (Names.initial twoAccounts) (handOver.take 3)).current
        (FixedBytes.fill 32 3) = none ∧
      (run (step Unicode.ascii) (Names.initial twoAccounts) handOver).current
        (FixedBytes.fill 32 3) = some "anna" :=
  ⟨username_rules_kept Unicode.ascii twoAccounts handOver (by decide +kernel),
    by decide +kernel, by decide +kernel⟩

end ResilientMessenger.Usernames
