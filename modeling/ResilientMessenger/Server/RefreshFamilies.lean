import Mathlib.Data.List.Chain
import ResilientMessenger.Server.Effects

/-!
# Families of refresh tokens

Completing a challenge issues the first refresh token of a family and every
rotation replaces the newest token of its family by another.  A token that is
presented again after that, or after a revocation, revokes the family, and this
is the one failing branch that commits.  The invariant reads a family as a
list: its rows in the order they were issued, every row but the last used and
pointing to the next.
-/

namespace ResilientMessenger.RefreshFamilies

open ResilientMessenger.ByteCodec
open ResilientMessenger.Identity
open ResilientMessenger.Schema
open ResilientMessenger.Backend
open ResilientMessenger.Transaction
open ResilientMessenger.Effects
open ResilientMessenger.Redelivery (zeroTokenHash zeroRefreshHash)
open ResilientMessenger.Runs

/-! ## Sessions -/

inductive Label where
  | beginChallenge (moment : Moment) (deviceId : Id16)
  | completeChallenge (moment : Moment) (challengeId : Id16)
      (signature : FixedBytes 64)
  | rotateRefresh (moment : Moment) (deviceId : Id16) (refreshToken : Id32)
      (signature : FixedBytes 64)

/-- A completed challenge and the hash of the refresh token issued for it. -/
structure Start where
  challengeId : Id16
  tokenHash : Id32
  deriving DecidableEq

/-- The database, with a record of the challenges that were completed and of the
families for which a reuse was reported. -/
structure Sessions where
  db : Database
  started : List Start
  reused : List Id16

/-- No refresh token has been issued yet. -/
def Sessions.initial (db : Database) : Sessions where
  db := { db with refreshSessions := Table.empty }
  started := []
  reused := []

/-- The family of a presented token. -/
def familyOf (crypto : Crypto) (refreshToken : Id32) (db : Database) :
    Option Id16 :=
  (db.refreshSessions.lookup (tokenHash crypto "refresh" refreshToken)).map
    RefreshRow.familyId

def step (crypto : Crypto) (sessions : Sessions) : Label → Sessions
  | .beginChallenge moment deviceId =>
      { sessions with db := (beginChallenge moment deviceId sessions.db).2 }
  | .completeChallenge moment challengeId signature =>
      match completeChallenge crypto moment challengeId signature sessions.db with
      | (.ok tokens, db) =>
          { sessions with
            db
            started := sessions.started ++
              [⟨challengeId, tokenHash crypto "refresh" tokens.refreshToken⟩] }
      | (.error _, db) => { sessions with db }
  | .rotateRefresh moment deviceId refreshToken signature =>
      match rotateRefresh crypto moment deviceId refreshToken signature
          sessions.db with
      | (.error .tokenReuse, db) =>
          { sessions with
            db
            reused := sessions.reused ++
              (familyOf crypto refreshToken sessions.db).toList }
      | (_, db) => { sessions with db }

/-- A family id drawn for a completed challenge is not in use. -/
def Fresh (sessions : Sessions) : Label → Prop
  | .completeChallenge moment _ _ =>
      ∀ row ∈ sessions.db.refreshSessions.rows, row.familyId ≠ moment.randomId
  | _ => True

/-! ## Families -/

/-- The rows of a family in the order they were issued. -/
def familyRows (table : Table RefreshRow.tokenHash) (family : Id16) :
    List RefreshRow :=
  table.rows.filter fun row => row.familyId = family

/-- A row points to the one that replaced it. -/
def ReplacedBy (row next : RefreshRow) : Prop :=
  row.replacedByHash = some next.tokenHash

/-- The row is neither used nor revoked. -/
def isLive (row : RefreshRow) : Bool :=
  row.usedAt.isNone && row.revokedAt.isNone

/-- The rows are a chain that ends in a row nothing has replaced. -/
def Chained (rows : List RefreshRow) : Prop :=
  ∃ earlier last, rows = earlier ++ [last] ∧ rows.IsChain ReplacedBy ∧
    last.replacedByHash = none

/-- The first token of the family was issued for this challenge. -/
def Begins (db : Database) (start : Start) (family : Id16) : Prop :=
  ∃ first, (familyRows db.refreshSessions family).head? = some first ∧
    first.tokenHash = start.tokenHash

/-- What holds of every family of a reachable database. -/
structure Sound (crypto : Crypto) (sessions : Sessions) : Prop where
  chained : ∀ family, familyRows sessions.db.refreshSessions family ≠ [] →
    Chained (familyRows sessions.db.refreshSessions family)
  begun : ∀ family, familyRows sessions.db.refreshSessions family ≠ [] →
    ∃ start ∈ sessions.started, Begins sessions.db start family
  consumed : ∀ start ∈ sessions.started, ∃ challenge,
    sessions.db.authChallenges.lookup start.challengeId = some challenge ∧
      challenge.consumedAt.isSome = true
  single : ∀ left ∈ sessions.started, ∀ right ∈ sessions.started,
    left.challengeId = right.challengeId →
      ∀ family other, Begins sessions.db left family →
        Begins sessions.db right other → family = other
  live : ∀ family, ((familyRows sessions.db.refreshSessions family).filter
    isLive).length ≤ 1
  revoked : ∀ family ∈ sessions.reused,
    ∀ row ∈ familyRows sessions.db.refreshSessions family,
      row.revokedAt.isSome = true
  refused : ∀ family ∈ sessions.reused, ∀ moment deviceId refreshToken signature,
    familyOf crypto refreshToken sessions.db = some family →
      ∀ tokens, (rotateRefresh crypto moment deviceId refreshToken signature
        sessions.db).1 ≠ .ok tokens

/-! ## What the calls do -/

/-- The row a new refresh token is stored in. -/
def issuedRow (crypto : Crypto) (moment : Moment) (family deviceId : Id16) :
    RefreshRow where
  tokenHash := tokenHash crypto "refresh" moment.secondRandom
  familyId := family
  deviceId
  replacedByHash := none
  expiresAt := moment.now + seconds refreshTtlSeconds
  usedAt := none
  revokedAt := none

/-- The row of a token that was rotated. -/
def replaced (now : Time) (successor : Id32) (row : RefreshRow) : RefreshRow :=
  { row with usedAt := some now, replacedByHash := some successor }

theorem tokenHash_replaced (now : Time) (successor : Id32) (row : RefreshRow) :
    (replaced now successor row).tokenHash = row.tokenHash := rfl

/-- The row of a token whose family was revoked. -/
def revoke (now : Time) (row : RefreshRow) : RefreshRow :=
  { row with revokedAt := some (row.revokedAt.getD now) }

section Calls

variable {crypto : Crypto} {moment : Moment} {db : Database}

theorem beginChallenge_cases (moment : Moment) (deviceId : Id16) (db : Database) :
    ∃ authChallenges, (beginChallenge moment deviceId db).2 =
        { db with authChallenges } ∧
      ∀ challengeId row, db.authChallenges.lookup challengeId = some row →
        authChallenges.lookup challengeId = some row := by
  unfold beginChallenge
  split
  · exact ⟨db.authChallenges, rfl, fun _ _ hlookup => hlookup⟩
  · rcases transaction_cases db _ with ⟨failure, hfailure⟩ |
      ⟨value, committed, hbody, hcommit⟩
    · rw [hfailure]
      exact ⟨db.authChallenges, rfl, fun _ _ hlookup => hlookup⟩
    · rw [hcommit]
      simp only [Database.insertChallenge, bind_eq_ok, pure_eq_ok, Prod.mk.injEq]
        at hbody
      obtain ⟨_, ⟨authChallenges, hinsert, rfl⟩, -, rfl⟩ := hbody
      refine ⟨authChallenges, rfl, ?_⟩
      intro challengeId row hlookup
      have hrow := (Database.insertInto_eq_ok.mp hinsert).2
      rw [Table.lookup_insert? hrow]
      split
      case isTrue hsame =>
        have hfree := (Table.insert?_eq_some_iff.mp hrow).1
        rw [← hsame, hlookup] at hfree
        cases hfree
      case isFalse => exact hlookup

theorem insertInto_eq_error {ρ κ : Type} {key : ρ → κ} [DecidableEq κ]
    {table : Table key} {allowed : Bool} {row : ρ} {failure : ApiError}
    (hinsert : Database.insertInto table allowed row = .error failure) :
    failure = .database := by
  unfold Database.insertInto at hinsert
  split at hinsert
  · split at hinsert <;> cases hinsert
    rfl
  · cases hinsert
    rfl

/-- Storing tokens fails in the database only. -/
theorem issueTokens_eq_error {deviceId : Id16} {family : Option Id16}
    {failure : ApiError}
    (hissue : issueTokens crypto moment deviceId family db = .error failure) :
    failure = .database := by
  rcases bind_eq_error.mp hissue with haccess | ⟨withAccess, -, hissue⟩
  · rcases bind_eq_error.mp haccess with haccess | ⟨_, -, haccess⟩
    · exact insertInto_eq_error haccess
    · cases haccess
  · rcases bind_eq_error.mp hissue with hrefresh | ⟨_, -, hissue⟩
    · rcases bind_eq_error.mp hrefresh with hrefresh | ⟨_, -, hrefresh⟩
      · exact insertInto_eq_error hrefresh
      · cases hrefresh
    · cases hissue

theorem completeChallenge_cases (crypto : Crypto) (moment : Moment)
    (challengeId : Id16) (signature : FixedBytes 64) (db : Database) :
    (∃ failure, completeChallenge crypto moment challengeId signature db =
        (.error failure, db)) ∨
      ∃ tokens challenge authChallenges accessSessions refreshSessions deviceId,
        completeChallenge crypto moment challengeId signature db =
          (.ok tokens,
            { db with authChallenges, accessSessions, refreshSessions }) ∧
        tokens.refreshToken = moment.secondRandom ∧
        db.authChallenges.lookup challengeId = some challenge ∧
        challenge.consumedAt = none ∧
        (∀ other, authChallenges.lookup other =
          if other = challengeId then
            some { challenge with consumedAt := some moment.now }
          else db.authChallenges.lookup other) ∧
        db.refreshSessions.insert?
          (issuedRow crypto moment moment.randomId deviceId) =
            some refreshSessions := by
  rcases transaction_cases db _ with ⟨failure, hfailure⟩ |
    ⟨tokens, committed, hbody, hcommit⟩
  · exact .inl ⟨failure, hfailure⟩
  · refine .inr ?_
    split at hbody
    · cases hbody
    case h_2 challenge hchallenge =>
      split at hbody
      · cases hbody
      split_ifs at hbody with hconsumed hexpired hsigned
      obtain ⟨-, accessSessions, refreshSessions, -, hinsert, rfl, rfl⟩ :=
        issueTokens_eq_ok.mp hbody
      refine ⟨_, challenge, _, accessSessions, refreshSessions,
        challenge.deviceId, hcommit, rfl, hchallenge, by simpa using hconsumed, ?_,
        hinsert⟩
      intro other
      simp only [Table.lookup_modify, hchallenge, Option.map_some, if_true]

theorem rotateRefresh_cases (crypto : Crypto) (moment : Moment) (deviceId : Id16)
    (refreshToken : Id32) (signature : FixedBytes 64) (db : Database) :
    (∃ failure, failure ≠ .tokenReuse ∧
        rotateRefresh crypto moment deviceId refreshToken signature db =
          (.error failure, db)) ∨
      (∃ row, db.refreshSessions.lookup (tokenHash crypto "refresh" refreshToken) =
          some row ∧
        rotateRefresh crypto moment deviceId refreshToken signature db =
          (.error .tokenReuse, revokeFamily moment.now row.familyId db)) ∨
      ∃ row tokens accessSessions issued,
        db.refreshSessions.lookup (tokenHash crypto "refresh" refreshToken) =
          some row ∧
        row.usedAt = none ∧ row.revokedAt = none ∧
        db.refreshSessions.insert? (issuedRow crypto moment row.familyId deviceId) =
          some issued ∧
        rotateRefresh crypto moment deviceId refreshToken signature db =
          (.ok tokens,
            { db with
              accessSessions
              refreshSessions := issued.modify
                (tokenHash crypto "refresh" refreshToken) (fun _ => true)
                (replaced moment.now
                  (tokenHash crypto "refresh" moment.secondRandom))
                (tokenHash_replaced _ _) }) := by
  unfold rotateRefresh
  dsimp only
  split
  case h_2 => exact .inl ⟨.invalidCredentials, by decide, rfl⟩
  case h_1 row device hfound hdevice =>
    have hrow := (Option.filter_eq_some_iff.mp hfound).1
    split
    · exact .inr (.inl ⟨row, hrow, rfl⟩)
    case isFalse hlive =>
      split
      · exact .inl ⟨.expired, by decide, rfl⟩
      split
      · exact .inl ⟨.invalidCredentials, by decide, rfl⟩
      cases hissue : issueTokens crypto moment deviceId (some row.familyId) db with
      | error failure =>
          refine .inl ⟨failure, ?_, ?_⟩
          · rw [issueTokens_eq_error hissue]
            decide
          · apply transaction_of_error
            rw [hissue]
            rfl
      | ok issued =>
          obtain ⟨tokens, next⟩ := issued
          obtain ⟨-, accessSessions, refreshSessions, -, hinsert, rfl, rfl⟩ :=
            issueTokens_eq_ok.mp hissue
          simp only [not_or, Bool.not_eq_true, Option.isSome_eq_false_iff,
            Option.isNone_iff_eq_none] at hlive
          refine .inr (.inr ⟨row, ⟨moment.firstRandom, moment.secondRandom⟩,
            accessSessions, refreshSessions, hrow, hlive.1, hlive.2, hinsert, ?_⟩)
          apply transaction_of_ok
          rw [hissue]
          rfl

end Calls

/-! ## One family -/

/-- Every row but the last is used and points to the next, and the rows are
revoked together. -/
def Rotating (rows : List RefreshRow) : Prop :=
  ∃ earlier last, rows = earlier ++ [last] ∧ rows.IsChain ReplacedBy ∧
    (∀ row ∈ earlier, row.usedAt.isSome = true) ∧
    last.usedAt = none ∧ last.replacedByHash = none ∧
    ((∀ row ∈ rows, row.revokedAt = none) ∨
      ∀ row ∈ rows, row.revokedAt.isSome = true)

theorem rotating_issued {row : RefreshRow} (hused : row.usedAt = none)
    (hreplaced : row.replacedByHash = none) (hrevoked : row.revokedAt = none) :
    Rotating [row] := by
  refine ⟨[], row, rfl, List.isChain_singleton row, by simp, hused, hreplaced, ?_⟩
  left
  simpa using hrevoked

theorem rotating_revoke {rows : List RefreshRow} (hrotating : Rotating rows)
    (now : Time) : Rotating (rows.map (revoke now)) := by
  obtain ⟨earlier, last, rfl, hchain, hused, hlast, hreplaced, -⟩ := hrotating
  refine ⟨earlier.map (revoke now), revoke now last, by simp, ?_, ?_, hlast, hreplaced,
    ?_⟩
  · exact List.isChain_map_of_isChain (revoke now) (fun _ _ hnext => hnext) hchain
  · intro row hrow
    obtain ⟨old, hold, rfl⟩ := List.mem_map.mp hrow
    exact hused old hold
  · right
    intro row hrow
    obtain ⟨old, -, rfl⟩ := List.mem_map.mp hrow
    rfl

/-- The only unused row of a family is its last. -/
theorem rotating_unused {earlier : List RefreshRow} {last row : RefreshRow}
    (hused : ∀ row ∈ earlier, row.usedAt.isSome = true)
    (hrow : row ∈ earlier ++ [last]) (hunused : row.usedAt = none) : row = last := by
  rcases List.mem_append.mp hrow with hearlier | hlast
  · have hcontra := hused row hearlier
    rw [hunused] at hcontra
    cases hcontra
  · exact List.mem_singleton.mp hlast

/-- Replacing the last row by a successor continues the chain. -/
theorem rotating_replaced {earlier : List RefreshRow} {last next : RefreshRow}
    (hrotating : Rotating (earlier ++ [last])) (hlive : last.revokedAt = none)
    (hnext : next.usedAt = none ∧ next.replacedByHash = none ∧
      next.revokedAt = none) (now : Time) :
    Rotating (earlier ++ [replaced now next.tokenHash last, next]) := by
  obtain ⟨before, final, hrows, hchain, hused, -, -, hrevoked⟩ := hrotating
  obtain ⟨rfl, hlast⟩ := List.append_inj' hrows rfl
  have hunrevoked : ∀ row ∈ earlier, row.revokedAt = none := by
    rcases hrevoked with hnone | hall
    · intro row hrow
      exact hnone row (List.mem_append_left _ hrow)
    · have hcontra := hall last (List.mem_append_right _ (List.mem_singleton_self _))
      rw [hlive] at hcontra
      cases hcontra
  refine ⟨earlier ++ [replaced now next.tokenHash last], next, by simp, ?_, ?_,
    hnext.1, hnext.2.1, ?_⟩
  · rw [List.isChain_append_cons_cons]
    refine ⟨?_, rfl, List.isChain_singleton next⟩
    rw [List.isChain_append] at hchain ⊢
    refine ⟨hchain.1, List.isChain_singleton _, ?_⟩
    intro row hrow other hother
    cases hother
    exact hchain.2.2 row hrow last rfl
  · intro row hrow
    rcases List.mem_append.mp hrow with hearlier | hmarked
    · exact hused row hearlier
    · rw [List.mem_singleton.mp hmarked]
      rfl
  · left
    intro row hrow
    simp only [List.mem_append, List.mem_cons, List.not_mem_nil, or_false] at hrow
    rcases hrow with hearlier | rfl | rfl
    · exact hunrevoked row hearlier
    · exact hlive
    · exact hnext.2.2

theorem rotating_chained {rows : List RefreshRow} (hrotating : Rotating rows) :
    Chained rows := by
  obtain ⟨earlier, last, hrows, hchain, -, -, hreplaced, -⟩ := hrotating
  exact ⟨earlier, last, hrows, hchain, hreplaced⟩

theorem rotating_live {rows : List RefreshRow} (hrotating : Rotating rows) :
    (rows.filter isLive).length ≤ 1 := by
  obtain ⟨earlier, last, rfl, -, hused, -, -, -⟩ := hrotating
  have hearlier : earlier.filter isLive = [] := by
    apply List.filter_eq_nil_iff.mpr
    intro row hrow
    have hsome := hused row hrow
    cases hat : row.usedAt with
    | none => simp [hat] at hsome
    | some time => simp [isLive, hat]
  rw [List.filter_append, hearlier, List.nil_append]
  exact List.length_filter_le _ _

/-! ## The rows of a family after each call -/

section Families

variable {table result : Table RefreshRow.tokenHash}

theorem familyRows_insert {row : RefreshRow}
    (hinsert : table.insert? row = some result) (family : Id16) :
    familyRows result family = familyRows table family ++
      if row.familyId = family then [row] else [] := by
  unfold familyRows
  rw [(Table.insert?_eq_some_iff.mp hinsert).2, List.filter_append]
  congr 1
  by_cases hfamily : row.familyId = family <;> simp [hfamily]

/-- Rewriting rows without moving them to another family rewrites each
family. -/
theorem familyRows_update (cond : RefreshRow → Bool) (f : RefreshRow → RefreshRow)
    (hkey : ∀ row, (f row).tokenHash = row.tokenHash)
    (hfamily : ∀ row, (f row).familyId = row.familyId) (family : Id16) :
    familyRows (table.update cond f hkey) family =
      (familyRows table family).map fun row => if cond row then f row else row := by
  unfold familyRows Table.update
  rw [List.filter_map]
  congr 1
  apply List.filter_congr
  intro row _
  by_cases hcond : cond row <;> simp [hcond, hfamily]

theorem mem_familyRows {row : RefreshRow} {family : Id16} :
    row ∈ familyRows table family ↔ row ∈ table.rows ∧ row.familyId = family := by
  simp [familyRows]

theorem familyRows_revoke (now : Time) (revoked family : Id16) (db : Database) :
    familyRows (revokeFamily now revoked db).refreshSessions family =
      if family = revoked then (familyRows db.refreshSessions family).map (revoke now)
      else familyRows db.refreshSessions family := by
  have hupdate := @familyRows_update db.refreshSessions
    (fun row => row.familyId = revoked) (revoke now) (fun _ => rfl) (fun _ => rfl)
    family
  apply hupdate.trans
  by_cases hfamily : family = revoked
  · rw [if_pos hfamily]
    apply List.map_congr_left
    intro row hrow
    rw [if_pos (by simpa [hfamily] using (mem_familyRows.mp hrow).2)]
  · rw [if_neg hfamily]
    conv_rhs => rw [← List.map_id (familyRows db.refreshSessions family)]
    apply List.map_congr_left
    intro row hrow
    have hother : row.familyId ≠ revoked := by
      rw [(mem_familyRows.mp hrow).2]
      exact hfamily
    rw [if_neg (by simpa using hother), id]

theorem eq_of_lookup {hash : Id32} {row other : RefreshRow}
    (hlookup : table.lookup hash = some row) (hother : other ∈ table.rows)
    (hhash : other.tokenHash = hash) : other = row := by
  have hfound := Table.lookup_eq_some_iff.mpr ⟨hother, hhash⟩
  exact Option.some.inj (hfound.symm.trans hlookup)

theorem familyRows_rotate {hash : Id32} {row next : RefreshRow}
    (hlookup : table.lookup hash = some row)
    (hinsert : table.insert? next = some result) (now : Time) (family : Id16) :
    familyRows (result.modify hash (fun _ => true) (replaced now next.tokenHash)
        (tokenHash_replaced _ _)) family =
      (familyRows table family).map (fun other =>
          if other.tokenHash = hash then replaced now next.tokenHash other
          else other) ++
        if next.familyId = family then [next] else [] := by
  have hfree := (Table.insert?_eq_some_iff.mp hinsert).1
  have hnext : next.tokenHash ≠ hash := by
    rintro rfl
    rw [hlookup] at hfree
    cases hfree
  have hupdate := @familyRows_update result
    (fun other => other.tokenHash = hash && true) (replaced now next.tokenHash)
    (fun _ => rfl) (fun _ => rfl) family
  apply hupdate.trans
  rw [familyRows_insert hinsert, List.map_append]
  by_cases hfamily : next.familyId = family <;> simp [hfamily, hnext]

/-- The other families are not affected by a rotation. -/
theorem familyRows_rotate_other {hash : Id32} {row next : RefreshRow}
    (hlookup : table.lookup hash = some row)
    (hinsert : table.insert? next = some result)
    (hnext : next.familyId = row.familyId) (now : Time) {family : Id16}
    (hfamily : family ≠ row.familyId) :
    familyRows (result.modify hash (fun _ => true) (replaced now next.tokenHash)
      (tokenHash_replaced _ _)) family = familyRows table family := by
  have hother : next.familyId ≠ family := by
    rw [hnext]
    exact hfamily.symm
  rw [familyRows_rotate hlookup hinsert, if_neg hother, List.append_nil]
  conv_rhs => rw [← List.map_id (familyRows table family)]
  apply List.map_congr_left
  intro other hmem
  obtain ⟨hrow, hin⟩ := mem_familyRows.mp hmem
  rw [if_neg, id]
  intro hhash
  rw [eq_of_lookup hlookup hrow hhash] at hin
  exact hfamily hin.symm

/-- In its own family a rotation marks the last row and appends the next. -/
theorem familyRows_rotate_own {hash : Id32} {row next : RefreshRow}
    (hlookup : table.lookup hash = some row) (hunused : row.usedAt = none)
    (hinsert : table.insert? next = some result)
    (hnext : next.familyId = row.familyId)
    (hrotating : Rotating (familyRows table row.familyId)) (now : Time) :
    ∃ earlier, familyRows table row.familyId = earlier ++ [row] ∧
      familyRows (result.modify hash (fun _ => true) (replaced now next.tokenHash)
          (tokenHash_replaced _ _)) row.familyId =
        earlier ++ [replaced now next.tokenHash row, next] := by
  obtain ⟨earlier, last, hrows, -, hused, -, -, -⟩ := hrotating
  have hmem : row ∈ familyRows table row.familyId :=
    mem_familyRows.mpr ⟨Table.mem_of_lookup hlookup, rfl⟩
  rw [hrows] at hmem
  have hlast := rotating_unused hused hmem hunused
  subst hlast
  refine ⟨earlier, hrows, ?_⟩
  have hkept : earlier.map (fun other =>
      if other.tokenHash = hash then replaced now next.tokenHash other else other) =
        earlier := by
    conv_rhs => rw [← List.map_id earlier]
    apply List.map_congr_left
    intro other hother
    rw [if_neg, id]
    intro hhash
    have hfamily : other ∈ familyRows table row.familyId := by
      rw [hrows]
      exact List.mem_append_left _ hother
    have hsome := hused other hother
    rw [eq_of_lookup hlookup (mem_familyRows.mp hfamily).1 hhash, hunused] at hsome
    cases hsome
  rw [familyRows_rotate hlookup hinsert, hrows, if_pos hnext, List.map_append, hkept]
  simp [Table.key_of_lookup hlookup]

end Families

/-! ## What a call keeps -/

/-- The invariant behind `Sound`. -/
structure Inv (sessions : Sessions) : Prop where
  rotating : ∀ family, familyRows sessions.db.refreshSessions family ≠ [] →
    Rotating (familyRows sessions.db.refreshSessions family)
  begun : ∀ family first,
    (familyRows sessions.db.refreshSessions family).head? = some first →
      ∃ start ∈ sessions.started, start.tokenHash = first.tokenHash
  consumed : ∀ start ∈ sessions.started, ∃ challenge,
    sessions.db.authChallenges.lookup start.challengeId = some challenge ∧
      challenge.consumedAt.isSome = true
  once : (sessions.started.map Start.challengeId).Nodup
  reused : ∀ family ∈ sessions.reused,
    familyRows sessions.db.refreshSessions family ≠ [] ∧
      ∀ row ∈ familyRows sessions.db.refreshSessions family,
        row.revokedAt.isSome = true

/-- The tokens of a family, by their hashes. -/
def hashes (db : Database) (family : Id16) : List Id32 :=
  (familyRows db.refreshSessions family).map RefreshRow.tokenHash

/-- A family that was reused stays so and gets no further token. -/
def Final (sessions next : Sessions) : Prop :=
  ∀ family ∈ sessions.reused, family ∈ next.reused ∧
    hashes next.db family = hashes sessions.db family

section Steps

variable {crypto : Crypto} {sessions : Sessions}

theorem head_hashes (table other : Table RefreshRow.tokenHash) {family : Id16}
    {first : RefreshRow}
    (hsame : ∃ more, (familyRows other family).map RefreshRow.tokenHash =
      (familyRows table family).map RefreshRow.tokenHash ++ more)
    (hrows : familyRows table family ≠ [])
    (hfirst : (familyRows other family).head? = some first) :
    ∃ original, (familyRows table family).head? = some original ∧
      original.tokenHash = first.tokenHash := by
  obtain ⟨more, hmore⟩ := hsame
  cases htable : familyRows table family with
  | nil => exact absurd htable hrows
  | cons original rest =>
      refine ⟨original, rfl, ?_⟩
      have hhead := congrArg List.head? hmore
      rw [List.head?_map, hfirst, htable] at hhead
      simpa using hhead.symm

theorem inv_begin (hinv : Inv sessions) (moment : Moment) (deviceId : Id16) :
    Inv (step crypto sessions (.beginChallenge moment deviceId)) ∧
      Final sessions (step crypto sessions (.beginChallenge moment deviceId)) := by
  obtain ⟨authChallenges, hbegin, hkept⟩ :=
    beginChallenge_cases moment deviceId sessions.db
  simp only [step, hbegin]
  refine ⟨⟨hinv.rotating, hinv.begun, ?_, hinv.once, hinv.reused⟩,
    fun family hfamily => ⟨hfamily, rfl⟩⟩
  intro start hstart
  obtain ⟨challenge, hchallenge, hconsumed⟩ := hinv.consumed start hstart
  exact ⟨challenge, hkept _ _ hchallenge, hconsumed⟩

/-- A step that adds a token to one family, which was not reused, and leaves the
others alone. -/
theorem inv_of_one_family (hinv : Inv sessions) {next : Sessions} (owner : Id16)
    (hother : ∀ family, family ≠ owner →
      familyRows next.db.refreshSessions family =
        familyRows sessions.db.refreshSessions family)
    (hrotating : Rotating (familyRows next.db.refreshSessions owner))
    (hbegun : ∀ first,
      (familyRows next.db.refreshSessions owner).head? = some first →
        ∃ start ∈ next.started, start.tokenHash = first.tokenHash)
    (hstarted : ∀ start ∈ sessions.started, start ∈ next.started)
    (hconsumed : ∀ start ∈ next.started, ∃ challenge,
      next.db.authChallenges.lookup start.challengeId = some challenge ∧
        challenge.consumedAt.isSome = true)
    (honce : (next.started.map Start.challengeId).Nodup)
    (hreused : next.reused = sessions.reused) (howner : owner ∉ sessions.reused) :
    Inv next ∧ Final sessions next := by
  have hkept : ∀ family ∈ sessions.reused,
      familyRows next.db.refreshSessions family =
        familyRows sessions.db.refreshSessions family := by
    intro family hfamily
    apply hother
    rintro rfl
    exact howner hfamily
  constructor
  · refine ⟨?_, ?_, hconsumed, honce, ?_⟩
    · intro family hnonempty
      by_cases hfamily : family = owner
      · rw [hfamily]
        exact hrotating
      · rw [hother family hfamily] at hnonempty ⊢
        exact hinv.rotating family hnonempty
    · intro family first hfirst
      by_cases hfamily : family = owner
      · rw [hfamily] at hfirst
        exact hbegun first hfirst
      · rw [hother family hfamily] at hfirst
        obtain ⟨start, hstart, hhash⟩ := hinv.begun family first hfirst
        exact ⟨start, hstarted start hstart, hhash⟩
    · intro family hfamily
      rw [hreused] at hfamily
      rw [hkept family hfamily]
      exact hinv.reused family hfamily
  · intro family hfamily
    rw [hreused]
    refine ⟨hfamily, ?_⟩
    unfold hashes
    rw [hkept family hfamily]

/-- A completed challenge starts a family of its own. -/
theorem inv_complete (hinv : Inv sessions) {moment : Moment} {challengeId : Id16}
    {signature : FixedBytes 64}
    (hfresh : Fresh sessions (.completeChallenge moment challengeId signature)) :
    Inv (step crypto sessions (.completeChallenge moment challengeId signature)) ∧
      Final sessions
        (step crypto sessions (.completeChallenge moment challengeId signature)) := by
  rcases completeChallenge_cases crypto moment challengeId signature sessions.db with
    ⟨failure, hfailure⟩ |
    ⟨tokens, challenge, authChallenges, accessSessions, refreshSessions, deviceId,
      hcomplete, htoken, hchallenge, hunconsumed, hlookup, hinsert⟩
  · simp only [step, hfailure]
    exact ⟨hinv, fun family hfamily => ⟨hfamily, rfl⟩⟩
  simp only [step, hcomplete, htoken]
  have hempty : familyRows sessions.db.refreshSessions moment.randomId = [] := by
    apply List.filter_eq_nil_iff.mpr
    intro row hrow hfamily
    exact hfresh row hrow (of_decide_eq_true hfamily)
  have hrows : ∀ family, familyRows refreshSessions family =
      familyRows sessions.db.refreshSessions family ++
        if moment.randomId = family then
          [issuedRow crypto moment moment.randomId deviceId]
        else [] := familyRows_insert hinsert
  have hown : familyRows refreshSessions moment.randomId =
      [issuedRow crypto moment moment.randomId deviceId] := by
    rw [hrows, hempty, List.nil_append, if_pos rfl]
  apply inv_of_one_family hinv moment.randomId
  · intro family hfamily
    change familyRows refreshSessions family = _
    rw [hrows, if_neg (fun hsame => hfamily hsame.symm), List.append_nil]
  · change Rotating (familyRows refreshSessions moment.randomId)
    rw [hown]
    exact rotating_issued rfl rfl rfl
  · intro first hfirst
    change (familyRows refreshSessions moment.randomId).head? = _ at hfirst
    rw [hown] at hfirst
    cases hfirst
    exact ⟨_, List.mem_append_right _ (List.mem_singleton_self _), rfl⟩
  · intro start hstart
    exact List.mem_append_left _ hstart
  · intro start hstart
    dsimp only at hstart ⊢
    rw [hlookup]
    rcases List.mem_append.mp hstart with hold | hnew
    · split
      · exact ⟨_, rfl, rfl⟩
      · exact hinv.consumed start hold
    · rw [List.mem_singleton.mp hnew, if_pos rfl]
      exact ⟨_, rfl, rfl⟩
  · dsimp only
    rw [List.map_append, List.nodup_append]
    refine ⟨hinv.once, List.nodup_singleton _, ?_⟩
    intro left hleft right hright hsame
    obtain ⟨start, hstart, rfl⟩ := List.mem_map.mp hleft
    rw [List.mem_singleton.mp hright] at hsame
    obtain ⟨found, hfound, hconsumed⟩ := hinv.consumed start hstart
    rw [hsame, hchallenge] at hfound
    cases hfound
    rw [hunconsumed] at hconsumed
    cases hconsumed
  · rfl
  · intro hfamily
    exact (hinv.reused _ hfamily).1 hempty

/-- A revocation keeps every row and its token. -/
theorem hashes_revokeFamily (now : Time) (revoked family : Id16) (db : Database) :
    hashes (revokeFamily now revoked db) family = hashes db family := by
  unfold hashes
  rw [familyRows_revoke]
  split
  · rw [List.map_map]
    rfl
  · rfl

theorem familyRows_ne_nil_of_revoke {now : Time} {revoked family : Id16} {db : Database}
    (hne : familyRows (revokeFamily now revoked db).refreshSessions family ≠ []) :
    familyRows db.refreshSessions family ≠ [] := by
  intro hnil
  rw [familyRows_revoke, hnil] at hne
  simp at hne

/-- A reported reuse revokes the whole family and nothing else. -/
theorem inv_reuse (hinv : Inv sessions) {refreshToken : Id32} {row : RefreshRow}
    (hlookup : sessions.db.refreshSessions.lookup
      (tokenHash crypto "refresh" refreshToken) = some row) (now : Time) :
    Inv ⟨revokeFamily now row.familyId sessions.db, sessions.started,
        sessions.reused ++ (familyOf crypto refreshToken sessions.db).toList⟩ ∧
      Final sessions
        ⟨revokeFamily now row.familyId sessions.db, sessions.started,
          sessions.reused ++ (familyOf crypto refreshToken sessions.db).toList⟩ := by
  have hfamily : familyOf crypto refreshToken sessions.db = some row.familyId := by
    rw [familyOf, hlookup, Option.map_some]
  constructor
  · constructor
    · intro family hne
      have hrotating := hinv.rotating family (familyRows_ne_nil_of_revoke hne)
      dsimp only
      rw [familyRows_revoke]
      split
      · exact rotating_revoke hrotating now
      · exact hrotating
    · intro family first hfirst
      have hne : familyRows (revokeFamily now row.familyId sessions.db).refreshSessions
          family ≠ [] := by
        intro hnil
        simp only [hnil, List.head?_nil, reduceCtorEq] at hfirst
      have hhashes := hashes_revokeFamily now row.familyId family sessions.db
      obtain ⟨original, horiginal, hhash⟩ := head_hashes sessions.db.refreshSessions
        (revokeFamily now row.familyId sessions.db).refreshSessions
        ⟨[], by rw [List.append_nil]; exact hhashes⟩ (familyRows_ne_nil_of_revoke hne)
        hfirst
      obtain ⟨start, hstart, hstarted⟩ := hinv.begun family original horiginal
      exact ⟨start, hstart, hstarted.trans hhash⟩
    · exact hinv.consumed
    · exact hinv.once
    · intro family hmem
      dsimp only at hmem ⊢
      rw [hfamily, Option.toList_some, List.mem_append, List.mem_singleton] at hmem
      rw [familyRows_revoke]
      by_cases hown : family = row.familyId
      · rw [if_pos hown]
        refine ⟨?_, ?_⟩
        · intro hnil
          have hmem : row ∈ familyRows sessions.db.refreshSessions family :=
            mem_familyRows.mpr ⟨Table.mem_of_lookup hlookup, hown.symm⟩
          rw [List.map_eq_nil_iff.mp hnil] at hmem
          cases hmem
        · intro other hother
          obtain ⟨old, -, rfl⟩ := List.mem_map.mp hother
          rfl
      · rw [if_neg hown]
        exact hinv.reused family (hmem.resolve_right hown)
  · intro family hmem
    exact ⟨List.mem_append_left _ hmem,
      hashes_revokeFamily now row.familyId family sessions.db⟩

/-- A rotation continues the family of its token, which was not reused. -/
theorem inv_rotate (hinv : Inv sessions) {hash : Id32} {row next : RefreshRow}
    {accessSessions : Table AccessRow.tokenHash}
    {issued : Table RefreshRow.tokenHash}
    (hlookup : sessions.db.refreshSessions.lookup hash = some row)
    (hunused : row.usedAt = none) (hunrevoked : row.revokedAt = none)
    (hinsert : sessions.db.refreshSessions.insert? next = some issued)
    (hnext : next.familyId = row.familyId ∧ next.usedAt = none ∧
      next.replacedByHash = none ∧ next.revokedAt = none) (now : Time) :
    Inv { sessions with
        db := { sessions.db with
          accessSessions
          refreshSessions := issued.modify hash (fun _ => true)
            (replaced now next.tokenHash) (tokenHash_replaced _ _) } } ∧
      Final sessions { sessions with
        db := { sessions.db with
          accessSessions
          refreshSessions := issued.modify hash (fun _ => true)
            (replaced now next.tokenHash) (tokenHash_replaced _ _) } } := by
  have hmem : row ∈ familyRows sessions.db.refreshSessions row.familyId :=
    mem_familyRows.mpr ⟨Table.mem_of_lookup hlookup, rfl⟩
  have hrotating := hinv.rotating row.familyId (List.ne_nil_of_mem hmem)
  obtain ⟨earlier, hbefore, hafter⟩ :=
    familyRows_rotate_own hlookup hunused hinsert hnext.1 hrotating now
  apply inv_of_one_family hinv row.familyId
  · intro family hfamily
    exact familyRows_rotate_other hlookup hinsert hnext.1 now hfamily
  · dsimp only
    rw [hafter]
    rw [hbefore] at hrotating
    exact rotating_replaced hrotating hunrevoked hnext.2 now
  · intro first hfirst
    obtain ⟨original, horiginal, hhash⟩ := head_hashes sessions.db.refreshSessions
      _ ⟨[next.tokenHash], by rw [hafter, hbefore]; simp [replaced]⟩
      (List.ne_nil_of_mem hmem) hfirst
    obtain ⟨start, hstart, hstarted⟩ := hinv.begun row.familyId original horiginal
    exact ⟨start, hstart, hstarted.trans hhash⟩
  · intro start hstart
    exact hstart
  · exact hinv.consumed
  · exact hinv.once
  · rfl
  · intro hfamily
    have hrevoked := (hinv.reused _ hfamily).2 row hmem
    rw [hunrevoked] at hrevoked
    cases hrevoked

theorem inv_step (hinv : Inv sessions) {label : Label} (hfresh : Fresh sessions label) :
    Inv (step crypto sessions label) ∧ Final sessions (step crypto sessions label) := by
  cases label with
  | beginChallenge moment deviceId => exact inv_begin hinv moment deviceId
  | completeChallenge moment challengeId signature => exact inv_complete hinv hfresh
  | rotateRefresh moment deviceId refreshToken signature =>
      rcases rotateRefresh_cases crypto moment deviceId refreshToken signature
        sessions.db with ⟨failure, hother, hfailure⟩ | ⟨row, hlookup, hreuse⟩ |
        ⟨row, tokens, accessSessions, issued, hlookup, hunused, hunrevoked, hinsert,
          hrotate⟩
      · have hsame : step crypto sessions
            (.rotateRefresh moment deviceId refreshToken signature) = sessions := by
          simp only [step, hfailure]
          cases failure <;> first | rfl | exact absurd rfl hother
        rw [hsame]
        exact ⟨hinv, fun family hfamily => ⟨hfamily, rfl⟩⟩
      · simp only [step, hreuse]
        exact inv_reuse hinv hlookup moment.now
      · simp only [step, hrotate]
        exact inv_rotate hinv hlookup hunused hunrevoked hinsert ⟨rfl, rfl, rfl, rfl⟩
          moment.now

theorem inv_run {labels : List Label} (hinv : Inv sessions)
    (hfresh : Guarded (step crypto) Fresh sessions labels) :
    Inv (run (step crypto) sessions labels) ∧
      Final sessions (run (step crypto) sessions labels) := by
  induction labels generalizing sessions with
  | nil => exact ⟨hinv, fun family hfamily => ⟨hfamily, rfl⟩⟩
  | cons label labels ih =>
      obtain ⟨hnext, hfinal⟩ := inv_step hinv hfresh.1
      obtain ⟨hlast, hrest⟩ := ih hnext hfresh.2
      refine ⟨hlast, ?_⟩
      intro family hfamily
      obtain ⟨hmem, hhashes⟩ := hfinal family hfamily
      obtain ⟨hkept, hafter⟩ := hrest family hmem
      exact ⟨hkept, hafter.trans hhashes⟩

theorem inv_initial (db : Database) : Inv (Sessions.initial db) where
  rotating := fun family hnonempty => absurd rfl hnonempty
  begun := by
    intro family first hfirst
    cases hfirst
  consumed := by
    intro start hstart
    cases hstart
  once := List.nodup_nil
  reused := by
    intro family hfamily
    cases hfamily

/-- The first token decides the family. -/
theorem begins_unique {db : Database} {start : Start} {family other : Id16}
    (hfamily : Begins db start family) (hother : Begins db start other) :
    family = other := by
  obtain ⟨first, hfirst, hhash⟩ := hfamily
  obtain ⟨second, hsecond, hsame⟩ := hother
  have hleft := mem_familyRows.mp (List.mem_of_head? hfirst)
  have hright := mem_familyRows.mp (List.mem_of_head? hsecond)
  have hrow : first = second :=
    eq_of_lookup (Table.mem_rows_iff.mp hright.1) hleft.1 (hhash.trans hsame.symm)
  rw [← hleft.2, ← hright.2, hrow]

theorem sound_of_inv (hinv : Inv sessions) : Sound crypto sessions where
  chained := fun family hnonempty => rotating_chained (hinv.rotating family hnonempty)
  begun := by
    intro family hnonempty
    cases hrows : familyRows sessions.db.refreshSessions family with
    | nil => exact absurd hrows hnonempty
    | cons first rest =>
        obtain ⟨start, hstart, hhash⟩ := hinv.begun family first (by rw [hrows]; rfl)
        exact ⟨start, hstart, first, by rw [hrows]; rfl, hhash.symm⟩
  consumed := hinv.consumed
  single := by
    intro left hleft right hright hsame family other hfamily hother
    have heq : left = right := List.inj_on_of_nodup_map hinv.once hleft hright hsame
    rw [heq] at hfamily
    exact begins_unique hfamily hother
  live := by
    intro family
    by_cases hempty : familyRows sessions.db.refreshSessions family = []
    · rw [hempty]
      exact Nat.zero_le 1
    · exact rotating_live (hinv.rotating family hempty)
  revoked := fun family hfamily => (hinv.reused family hfamily).2
  refused := by
    intro family hfamily moment deviceId refreshToken signature htoken tokens hok
    rcases rotateRefresh_cases crypto moment deviceId refreshToken signature
      sessions.db with ⟨failure, -, hfailure⟩ | ⟨row, -, hreuse⟩ |
      ⟨row, _, _, _, hlookup, -, hunrevoked, -, -⟩
    · rw [hfailure] at hok
      cases hok
    · rw [hreuse] at hok
      cases hok
    · rw [familyOf, hlookup, Option.map_some, Option.some.injEq] at htoken
      have hrevoked := (hinv.reused family hfamily).2 row
        (mem_familyRows.mpr ⟨Table.mem_of_lookup hlookup, htoken⟩)
      rw [hunrevoked] at hrevoked
      cases hrevoked

end Steps

/-- In every run with fresh family ids the families are chains with at most one
live row, each begun by a challenge of its own, and a family that was reused is
revoked for good: later it has the tokens it had then and none of them
rotates. -/
theorem families_are_chains (crypto : Crypto) (db : Database)
    (earlier later : List Label)
    (hfresh : Guarded (step crypto) Fresh (Sessions.initial db) (earlier ++ later)) :
    Sound crypto (run (step crypto) (Sessions.initial db) (earlier ++ later)) ∧
      Final (run (step crypto) (Sessions.initial db) earlier)
        (run (step crypto) (Sessions.initial db) (earlier ++ later)) := by
  obtain ⟨hearlier, hlater⟩ := guarded_append.mp hfresh
  have hmiddle := (inv_run (inv_initial db) hearlier).1
  obtain ⟨hinv, hfinal⟩ := inv_run hmiddle hlater
  rw [run_append]
  exact ⟨sound_of_inv hinv, hfinal⟩

/-- The digest under which the access token of ones is stored. -/
def onesTokenHash : Id32 :=
  ⟨[176, 39, 119, 206, 34, 152, 83, 71, 15, 43, 179, 192, 172, 232, 5, 40, 144,
      237, 27, 145, 94, 96, 197, 162, 142, 244, 127, 58, 62, 64, 3, 199],
    rfl⟩

/-- The digest under which the refresh token of ones is stored. -/
def onesRefreshHash : Id32 :=
  ⟨[102, 120, 224, 211, 71, 44, 63, 161, 178, 109, 94, 253, 163, 222, 43, 172,
      196, 60, 238, 40, 249, 24, 65, 36, 92, 220, 57, 112, 111, 245, 205, 240],
    rfl⟩

/-- Hashing on the tokens of zeros and of ones. -/
def rotationCrypto : Crypto where
  sha256 input :=
    if input = ascii "resilient/session/v1" ++ ascii "access" ++
        List.replicate 32 1 then onesTokenHash
    else if input = ascii "resilient/session/v1" ++ ascii "refresh" ++
        List.replicate 32 1 then onesRefreshHash
    else if input = ascii "resilient/session/v1" ++ ascii "refresh" ++
        List.replicate 32 0 then zeroRefreshHash
    else zeroTokenHash
  signatures := SignatureScheme.neutral

/-- One device with the neutral key. -/
def rotationServer : Database :=
  { Database.migrated with
    devices := ⟨[⟨FixedBytes.fill 16 3, FixedBytes.fill 32 2,
      SignatureScheme.neutralKey, none⟩], List.nodup_singleton _⟩ }

def rotationMoment (random : UInt8) : Moment where
  now := 0
  randomId := FixedBytes.fill 16 6
  firstRandom := FixedBytes.fill 32 random
  secondRandom := FixedBytes.fill 32 random

/-- The device signs in, rotates its token and presents it once more. -/
def reuseRun : List Label :=
  [.beginChallenge (rotationMoment 0) (FixedBytes.fill 16 3),
    .completeChallenge (rotationMoment 0) (FixedBytes.fill 16 6)
      SignatureScheme.neutralSignature,
    .rotateRefresh (rotationMoment 1) (FixedBytes.fill 16 3) (FixedBytes.fill 32 0)
      SignatureScheme.neutralSignature,
    .rotateRefresh (rotationMoment 1) (FixedBytes.fill 16 3) (FixedBytes.fill 32 0)
      SignatureScheme.neutralSignature]

/-- The token that replaced it does not rotate either. -/
theorem reused_family_stays_revoked :
    (run (step rotationCrypto) (Sessions.initial rotationServer) reuseRun).reused =
        [FixedBytes.fill 16 6] ∧
      Sound rotationCrypto (run (step rotationCrypto)
        (Sessions.initial rotationServer) (reuseRun ++
          [.rotateRefresh (rotationMoment 1) (FixedBytes.fill 16 3)
            (FixedBytes.fill 32 1) SignatureScheme.neutralSignature])) ∧
      Final (run (step rotationCrypto) (Sessions.initial rotationServer) reuseRun)
        (run (step rotationCrypto) (Sessions.initial rotationServer) (reuseRun ++
          [.rotateRefresh (rotationMoment 1) (FixedBytes.fill 16 3)
            (FixedBytes.fill 32 1) SignatureScheme.neutralSignature])) := by
  refine ⟨by decide +kernel, families_are_chains rotationCrypto rotationServer
    reuseRun _ ⟨trivial, ?_, trivial, trivial, trivial, trivial⟩⟩
  intro row hrow
  cases hrow

end ResilientMessenger.RefreshFamilies
