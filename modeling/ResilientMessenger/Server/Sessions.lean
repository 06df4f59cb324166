import ResilientMessenger.Server.EventProvenance
import ResilientMessenger.Server.RequestedCalls
import ResilientMessenger.Server.Responses
import ResilientMessenger.Server.Revocation

/-!
# What an access token proves

An access token is all a request shows to be carried out for a device.  The row
behind it says when it expires but not why it was issued.  `access_is_earned`
recovers that from the run: the token was issued less than fifteen minutes ago,
and the refresh token issued with it goes back, one proof of possession after
the other, to a challenge that the server sent to the device while it was not
revoked and that was answered within two minutes.
-/

namespace ResilientMessenger.Sessions

open ResilientMessenger.ByteCodec
open ResilientMessenger.Identity
open ResilientMessenger.Schema
open ResilientMessenger.Backend
open ResilientMessenger.Transaction
open ResilientMessenger.Calls
open ResilientMessenger.Effects
open ResilientMessenger.EventProvenance (Scan cleanupExpiredEvents)
open ResilientMessenger.RefreshFamilies (issuedRow)
open ResilientMessenger.RequestedCalls
open ResilientMessenger.Revocation
open ResilientMessenger.Runs

/-- Requests, with the two things an administrator does. -/
inductive Label where
  | request (request : Request)
  | revoke (now : Time) (deviceId : Id16)
  | cleanup (now : Time) (batch : ℤ) (scan : Scan)

def step (crypto : Crypto) (db : Database) : Label → Database
  | .request request => serve crypto db request
  | .revoke now deviceId => revokeDevice now deviceId db
  | .cleanup now batch scan => (cleanupExpiredEvents now batch scan db).2

/-! ## Proofs of possession -/

/-- The label is a request that stores this challenge for a device that is not
revoked. -/
def Sends (row : ChallengeRow) (db : Database) : Label → Prop
  | .request request =>
      request.frame.kind = .authChallenge ∧
        (activeDevice db row.deviceId).isSome = true ∧
        row.challengeId = request.moment.randomId ∧
        row.challenge = request.moment.firstRandom ∧
        row.expiresAt = request.moment.now + seconds challengeTtlSeconds
  | _ => False

/-- The request answers a challenge the server sent to the device, in time and
with a signature that verifies under `key`. -/
def LogsIn (crypto : Crypto) (before : List Label) (request : Request)
    (deviceId : Id16) (key : Id32) : Prop :=
  ∃ challengeId signature row,
    request.frame.kind = .authResponse ∧
    request.frame.body = challengeId.toList ++ signature.toList ∧
    row.challengeId = challengeId ∧ row.deviceId = deviceId ∧
    row.consumedAt = none ∧ request.moment.now < row.expiresAt ∧
    crypto.verifies key (authChallengePayload challengeId row.challenge)
      signature = true ∧
    Once (step crypto) (Sends row) Database.migrated before

/-- The request presents a live refresh token of the device, with a signature
that verifies under `key`. -/
def Rotates (crypto : Crypto) (before : List Label) (request : Request)
    (deviceId : Id16) (key refreshToken : Id32) : Prop :=
  ∃ signature device,
    request.frame.kind = .authResponse ∧
    request.frame.body =
      deviceId.toList ++ refreshToken.toList ++ signature.toList ∧
    device.devicePublicKey = key ∧
    Presents crypto request.moment deviceId refreshToken signature
      (run (step crypto) Database.migrated before) device

/-- The refresh token with this hash was issued to the device for a login, or
for another refresh token of which the same holds. -/
inductive Rooted (crypto : Crypto) (deviceId : Id16) (key : Id32) :
    List Label → Id32 → Prop where
  | login {before after : List Label} {request : Request}
      (hlogin : LogsIn crypto before request deviceId key) :
      Rooted crypto deviceId key (before ++ .request request :: after)
        (tokenHash crypto "refresh" request.moment.secondRandom)
  | rotation {before after : List Label} {request : Request} {refreshToken : Id32}
      (hrooted : Rooted crypto deviceId key before
        (tokenHash crypto "refresh" refreshToken))
      (hrotates : Rotates crypto before request deviceId key refreshToken) :
      Rooted crypto deviceId key (before ++ .request request :: after)
        (tokenHash crypto "refresh" request.moment.secondRandom)

theorem Rooted.append {crypto : Crypto} {deviceId : Id16} {key hash : Id32}
    {labels : List Label} (hrooted : Rooted crypto deviceId key labels hash)
    (more : List Label) : Rooted crypto deviceId key (labels ++ more) hash := by
  cases hrooted with
  | login hlogin =>
      rw [List.append_assoc, List.cons_append]
      exact .login hlogin
  | rotation hearlier hrotates =>
      rw [List.append_assoc, List.cons_append]
      exact .rotation hearlier hrotates

def accessRow (crypto : Crypto) (moment : Moment) (deviceId : Id16) : AccessRow where
  tokenHash := tokenHash crypto "access" moment.firstRandom
  deviceId
  expiresAt := moment.now + seconds accessTtlSeconds

/-- A request of the run issued this token, together with a refresh token that
is rooted in a login. -/
def Opened (crypto : Crypto) (key : Id32) (labels : List Label) (row : AccessRow) :
    Prop :=
  ∃ before request after, labels = before ++ .request request :: after ∧
    row = accessRow crypto request.moment row.deviceId ∧
    Rooted crypto row.deviceId key (before ++ [.request request])
      (tokenHash crypto "refresh" request.moment.secondRandom)

theorem Opened.append {crypto : Crypto} {key : Id32} {labels : List Label}
    {row : AccessRow} (hopened : Opened crypto key labels row) (more : List Label) :
    Opened crypto key (labels ++ more) row := by
  obtain ⟨before, request, after, rfl, hrow, hrooted⟩ := hopened
  exact ⟨before, request, after ++ more, by simp, hrow, hrooted⟩

/-! ## What the calls store -/

section Calls

variable {crypto : Crypto} {moment : Moment} {db : Database}

theorem beginChallenge_inserts (deviceId : Id16) :
    (beginChallenge moment deviceId db).2 = db ∨
      ∃ authChallenges,
        (beginChallenge moment deviceId db).2 = { db with authChallenges } ∧
        (activeDevice db deviceId).isSome = true ∧
        db.authChallenges.insert?
          ⟨moment.randomId, deviceId, moment.firstRandom,
            moment.now + seconds challengeTtlSeconds, none⟩ = some authChallenges := by
  unfold beginChallenge
  split
  · exact .inl rfl
  case isFalse hactive =>
    rcases transaction_cases db _ with ⟨failure, hfailure⟩ |
      ⟨value, committed, hbody, hcommit⟩
    · rw [hfailure]
      exact .inl rfl
    · rw [hcommit]
      simp only [Database.insertChallenge, bind_eq_ok, pure_eq_ok, Prod.mk.injEq,
        Database.insertInto_eq_ok] at hbody
      obtain ⟨_, ⟨authChallenges, ⟨-, hinsert⟩, rfl⟩, -, rfl⟩ := hbody
      exact .inr ⟨authChallenges, rfl,
        Option.isSome_iff_ne_none.mpr (by simpa using hactive), hinsert⟩

/-- The tables after tokens were issued for an answered challenge. -/
theorem completeChallenge_inserts (challengeId : Id16) (signature : FixedBytes 64) :
    (completeChallenge crypto moment challengeId signature db).2 = db ∨
      ∃ row device accessSessions refreshSessions,
        db.authChallenges.lookup challengeId = some row ∧
        db.devices.lookup row.deviceId = some device ∧
        row.consumedAt = none ∧ moment.now < row.expiresAt ∧
        crypto.verifies device.devicePublicKey
          (authChallengePayload challengeId row.challenge) signature = true ∧
        db.accessSessions.insert? (accessRow crypto moment row.deviceId) =
          some accessSessions ∧
        db.refreshSessions.insert?
          (issuedRow crypto moment moment.randomId row.deviceId) =
            some refreshSessions ∧
        (completeChallenge crypto moment challengeId signature db).2 =
          { db with
            authChallenges := db.authChallenges.modify challengeId (fun _ => true)
              (fun row => { row with consumedAt := some moment.now }) fun _ => rfl
            accessSessions
            refreshSessions } := by
  unfold completeChallenge
  rcases transaction_cases db _ with ⟨failure, hfailure⟩ |
    ⟨tokens, committed, hbody, hcommit⟩
  · rw [hfailure]
    exact .inl rfl
  rw [hcommit]
  split at hbody
  · cases hbody
  case h_2 row hrow =>
    split at hbody
    · cases hbody
    case h_2 device hdevice =>
      split_ifs at hbody with hconsumed hexpired hsigned
      obtain ⟨-, accessSessions, refreshSessions, haccess, hrefresh, -, rfl⟩ :=
        Effects.issueTokens_eq_ok.mp hbody
      exact .inr ⟨row, device, accessSessions, refreshSessions, hrow, hdevice,
        by simpa using hconsumed, not_le.mp hexpired, by simpa using hsigned, haccess,
        hrefresh, rfl⟩

theorem rotateRefresh_inserts (deviceId : Id16) (refreshToken : Id32)
    (signature : FixedBytes 64) :
    (∃ refreshSessions,
        (rotateRefresh crypto moment deviceId refreshToken signature db).2 =
          { db with refreshSessions } ∧
        ∀ hash, (refreshSessions.lookup hash).map RefreshRow.deviceId =
          (db.refreshSessions.lookup hash).map RefreshRow.deviceId) ∨
      ∃ row device accessSessions issued refreshSessions,
        db.refreshSessions.lookup (tokenHash crypto "refresh" refreshToken) =
          some row ∧
        Presents crypto moment deviceId refreshToken signature db device ∧
        db.accessSessions.insert? (accessRow crypto moment deviceId) =
          some accessSessions ∧
        db.refreshSessions.insert? (issuedRow crypto moment row.familyId deviceId) =
          some issued ∧
        (∀ hash, (refreshSessions.lookup hash).map RefreshRow.deviceId =
          (issued.lookup hash).map RefreshRow.deviceId) ∧
        (rotateRefresh crypto moment deviceId refreshToken signature db).2 =
          { db with accessSessions, refreshSessions } := by
  unfold rotateRefresh
  dsimp only
  split
  case h_2 => exact .inl ⟨db.refreshSessions, rfl, fun _ => rfl⟩
  case h_1 row device hfound hdevice =>
    obtain ⟨hrow, howner⟩ := Option.filter_eq_some_iff.mp hfound
    split_ifs with hspent hexpired hsigned
    · refine .inl ⟨_, rfl, ?_⟩
      intro hash
      rw [Table.lookup_update, Option.map_map]
      congr 1
      funext row
      simp only [Function.comp_apply]
      split <;> rfl
    · exact .inl ⟨db.refreshSessions, rfl, fun _ => rfl⟩
    · exact .inl ⟨db.refreshSessions, rfl, fun _ => rfl⟩
    rcases transaction_cases db _ with ⟨failure, hfailure⟩ |
      ⟨tokens, committed, hbody, hcommit⟩
    · rw [hfailure]
      exact .inl ⟨db.refreshSessions, rfl, fun _ => rfl⟩
    rw [hcommit]
    obtain ⟨⟨tokens, issuedDb⟩, hissue, hbody⟩ := bind_eq_ok.mp hbody
    obtain ⟨-, accessSessions, issued, haccess, hrefresh, -, rfl⟩ :=
      Effects.issueTokens_eq_ok.mp hissue
    cases pure_eq_ok.mp hbody
    rw [not_or] at hspent
    refine .inr ⟨row, device, accessSessions, issued, _, hrow,
      ⟨row, hrow, of_decide_eq_true howner, hdevice, by simpa using hspent.1,
        by simpa using hspent.2, not_le.mp hexpired, by simpa using hsigned⟩,
      haccess, hrefresh, ?_, rfl⟩
    intro hash
    rw [Table.lookup_modify]
    split
    case isTrue hsame =>
      rw [hsame, Option.map_map]
      rfl
    case isFalse => rfl

end Calls

/-! ## What a label keeps -/

/-- No device is lost and none gets another key. -/
def KeepsKeys (db next : Database) : Prop :=
  ∀ deviceId device, db.devices.lookup deviceId = some device →
    ∃ later, next.devices.lookup deviceId = some later ∧
      later.devicePublicKey = device.devicePublicKey

structure Earned (crypto : Crypto) (labels : List Label) (db : Database) : Prop where
  challenges : ∀ row ∈ db.authChallenges.rows,
    Once (step crypto) (Sends row) Database.migrated labels
  refresh : ∀ row ∈ db.refreshSessions.rows, ∃ device,
    db.devices.lookup row.deviceId = some device ∧
      Rooted crypto row.deviceId device.devicePublicKey labels row.tokenHash
  access : ∀ row ∈ db.accessSessions.rows, ∃ device,
    db.devices.lookup row.deviceId = some device ∧
      Opened crypto device.devicePublicKey labels row

section Steps

variable {crypto : Crypto} {labels : List Label} {label : Label}
variable {db next : Database}

/-- A request changes no row of a device. -/
theorem serve_devices (request : Request) {deviceId : Id16} {device : DeviceRow}
    (hdevice : db.devices.lookup deviceId = some device) :
    (serve crypto db request).devices.lookup deviceId = some device := by
  obtain ⟨caller, -, heffect⟩ := serve_effect crypto db request
  generalize serve crypto db request = next at heffect ⊢
  cases heffect with
  | quiet hquiet => exact hquiet.devices deviceId device hdevice
  | created groupId creator founder hfounder hgroup hmember => exact hdevice
  | removed operation hremove hlogged member htarget hmembers =>
      rw [hlogged.devices]
      exact hdevice
  | admitted operation hadmitted hlogged target htarget hmembers =>
      rw [hlogged.devices]
      exact hdevice
  | posted event hauthor hposted =>
      rw [hposted.devices]
      exact hdevice

theorem serve_keepsKeys (request : Request) :
    KeepsKeys db (serve crypto db request) :=
  fun _ device hdevice => ⟨device, serve_devices request hdevice, rfl⟩

theorem step_keepsKeys (label : Label) : KeepsKeys db (step crypto db label) := by
  cases label with
  | request request => exact serve_keepsKeys request
  | cleanup now batch scan => exact fun deviceId device hdevice => ⟨device, hdevice, rfl⟩
  | revoke now revoked =>
      intro deviceId device hdevice
      simp only [step, revokeDevice, Table.lookup_modify]
      split
      case isTrue hsame =>
        rw [← hsame, hdevice]
        exact ⟨_, rfl, rfl⟩
      case isFalse => exact ⟨device, hdevice, rfl⟩

/-- Each row is as it was, up to what the proofs do not mention, or is new and
has its proof. -/
theorem earned_of_rows (hearned : Earned crypto labels db)
    (hkeys : KeepsKeys db next)
    (hchallenges : ∀ row ∈ next.authChallenges.rows,
      (∃ consumedAt, { row with consumedAt } ∈ db.authChallenges.rows) ∨
        Once (step crypto) (Sends row) Database.migrated (labels ++ [label]))
    (hrefresh : ∀ row ∈ next.refreshSessions.rows,
      (∃ old ∈ db.refreshSessions.rows, old.deviceId = row.deviceId ∧
        old.tokenHash = row.tokenHash) ∨
      ∃ device, db.devices.lookup row.deviceId = some device ∧
        Rooted crypto row.deviceId device.devicePublicKey (labels ++ [label])
          row.tokenHash)
    (haccess : ∀ row ∈ next.accessSessions.rows,
      row ∈ db.accessSessions.rows ∨
      ∃ device, db.devices.lookup row.deviceId = some device ∧
        Opened crypto device.devicePublicKey (labels ++ [label]) row) :
    Earned crypto (labels ++ [label]) next where
  challenges := by
    intro row hrow
    rcases hchallenges row hrow with ⟨consumedAt, hold⟩ | hsends
    · exact once_append (hearned.challenges _ hold) [label]
    · exact hsends
  refresh := by
    intro row hrow
    have hproof : ∃ device, db.devices.lookup row.deviceId = some device ∧
        Rooted crypto row.deviceId device.devicePublicKey (labels ++ [label])
          row.tokenHash := by
      rcases hrefresh row hrow with ⟨old, hold, hdevice, hhash⟩ | hnew
      · obtain ⟨device, hlookup, hrooted⟩ := hearned.refresh old hold
        rw [hdevice] at hlookup hrooted
        rw [hhash] at hrooted
        exact ⟨device, hlookup, hrooted.append [label]⟩
      · exact hnew
    obtain ⟨device, hlookup, hrooted⟩ := hproof
    obtain ⟨later, hlater, hkey⟩ := hkeys row.deviceId device hlookup
    exact ⟨later, hlater, hkey ▸ hrooted⟩
  access := by
    intro row hrow
    have hproof : ∃ device, db.devices.lookup row.deviceId = some device ∧
        Opened crypto device.devicePublicKey (labels ++ [label]) row := by
      rcases haccess row hrow with hold | hnew
      · obtain ⟨device, hlookup, hopened⟩ := hearned.access row hold
        exact ⟨device, hlookup, hopened.append [label]⟩
      · exact hnew
    obtain ⟨device, hlookup, hopened⟩ := hproof
    obtain ⟨later, hlater, hkey⟩ := hkeys row.deviceId device hlookup
    exact ⟨later, hlater, hkey ▸ hopened⟩

theorem earned_unchanged (hearned : Earned crypto labels db)
    (hkeys : KeepsKeys db next)
    (hchallenges : next.authChallenges = db.authChallenges)
    (hrefresh : next.refreshSessions = db.refreshSessions)
    (haccess : next.accessSessions = db.accessSessions) :
    Earned crypto (labels ++ [label]) next := by
  apply earned_of_rows hearned hkeys
  · intro row hrow
    rw [hchallenges] at hrow
    exact .inl ⟨row.consumedAt, hrow⟩
  · intro row hrow
    rw [hrefresh] at hrow
    exact .inl ⟨row, hrow, rfl, rfl⟩
  · intro row hrow
    rw [haccess] at hrow
    exact .inl hrow

/-- Rows that are only rewritten keep the device they belong to. -/
theorem mem_of_devices {before after : Table RefreshRow.tokenHash}
    (hsame : ∀ hash, (after.lookup hash).map RefreshRow.deviceId =
      (before.lookup hash).map RefreshRow.deviceId)
    {row : RefreshRow} (hrow : row ∈ after.rows) :
    ∃ old ∈ before.rows, old.deviceId = row.deviceId ∧
      old.tokenHash = row.tokenHash := by
  have hlookup := hsame row.tokenHash
  rw [Table.mem_rows_iff.mp hrow, Option.map_some] at hlookup
  obtain ⟨old, hold, hdevice⟩ := Option.map_eq_some_iff.mp hlookup.symm
  exact ⟨old, Table.mem_of_lookup hold, hdevice, Table.key_of_lookup hold⟩

end Steps

section Requests

variable {crypto : Crypto} {labels : List Label} {request : Request} {db : Database}
variable (hdb : run (step crypto) Database.migrated labels = db)
variable (hearned : Earned crypto labels db)

include hdb hearned

theorem earned_beginChallenge {deviceId : Id16}
    (hkind : request.frame.kind = .authChallenge)
    (hkeys : KeepsKeys db (beginChallenge request.moment deviceId db).2) :
    Earned crypto (labels ++ [.request request])
      (beginChallenge request.moment deviceId db).2 := by
  rcases beginChallenge_inserts deviceId with hsame |
    ⟨authChallenges, hnext, hactive, hinsert⟩
  · rw [hsame] at hkeys ⊢
    exact earned_unchanged hearned hkeys rfl rfl rfl
  rw [hnext] at hkeys ⊢
  apply earned_of_rows hearned hkeys
  · intro row hrow
    rcases Table.mem_insert? hinsert hrow with hold | rfl
    · exact .inl ⟨row.consumedAt, hold⟩
    · right
      apply once_last
      rw [hdb]
      exact ⟨hkind, hactive, rfl, rfl, rfl⟩
  · exact fun row hrow => .inl ⟨row, hrow, rfl, rfl⟩
  · exact fun row hrow => .inl hrow

omit hdb in
theorem earned_completeChallenge {challengeId : Id16} {signature : FixedBytes 64}
    (hkind : request.frame.kind = .authResponse)
    (hbody : request.frame.body = challengeId.toList ++ signature.toList)
    (hkeys : KeepsKeys db
      (completeChallenge crypto request.moment challengeId signature db).2) :
    Earned crypto (labels ++ [.request request])
      (completeChallenge crypto request.moment challengeId signature db).2 := by
  rcases completeChallenge_inserts challengeId signature with hsame |
    ⟨row, device, accessSessions, refreshSessions, hrow, hdevice, hconsumed, hopen,
      hsigned, haccess, hrefresh, hnext⟩
  · rw [hsame] at hkeys ⊢
    exact earned_unchanged hearned hkeys rfl rfl rfl
  have hlogin : LogsIn crypto labels request row.deviceId device.devicePublicKey :=
    ⟨challengeId, signature, row, hkind, hbody, Table.key_of_lookup hrow, rfl,
      hconsumed, hopen, hsigned, hearned.challenges row (Table.mem_of_lookup hrow)⟩
  have hrooted : Rooted crypto row.deviceId device.devicePublicKey
      (labels ++ [.request request])
      (tokenHash crypto "refresh" request.moment.secondRandom) := .login hlogin
  rw [hnext] at hkeys ⊢
  apply earned_of_rows hearned hkeys
  · intro found hfound
    have hlookup := Table.mem_rows_iff.mp hfound
    rw [Table.lookup_modify] at hlookup
    split at hlookup
    · rw [hrow, Option.map_some, if_pos rfl] at hlookup
      cases hlookup
      exact .inl ⟨row.consumedAt, Table.mem_of_lookup hrow⟩
    · exact .inl ⟨found.consumedAt, Table.mem_of_lookup hlookup⟩
  · intro found hfound
    rcases Table.mem_insert? hrefresh hfound with hold | rfl
    · exact .inl ⟨found, hold, rfl, rfl⟩
    · exact .inr ⟨device, hdevice, hrooted⟩
  · intro found hfound
    rcases Table.mem_insert? haccess hfound with hold | rfl
    · exact .inl hold
    · exact .inr ⟨device, hdevice, labels, request, [], rfl, rfl, hrooted⟩

theorem earned_rotateRefresh {deviceId : Id16} {refreshToken : Id32}
    {signature : FixedBytes 64} (hkind : request.frame.kind = .authResponse)
    (hbody : request.frame.body =
      deviceId.toList ++ refreshToken.toList ++ signature.toList)
    (hkeys : KeepsKeys db
      (rotateRefresh crypto request.moment deviceId refreshToken signature db).2) :
    Earned crypto (labels ++ [.request request])
      (rotateRefresh crypto request.moment deviceId refreshToken signature db).2 := by
  rcases rotateRefresh_inserts deviceId refreshToken signature with
    ⟨refreshSessions, hnext, hsame⟩ |
    ⟨row, device, accessSessions, issued, refreshSessions, hrow, hpresents, haccess,
      hissued, hsame, hnext⟩
  · rw [hnext] at hkeys ⊢
    apply earned_of_rows hearned hkeys
    · exact fun row hrow => .inl ⟨row.consumedAt, hrow⟩
    · exact fun row hrow => .inl (mem_of_devices hsame hrow)
    · exact fun row hrow => .inl hrow
  have ⟨found, hfound, howner, hdevice, _⟩ := hpresents
  rw [hrow] at hfound
  cases hfound
  obtain ⟨holder, hholder, hearlier⟩ := hearned.refresh row (Table.mem_of_lookup hrow)
  rw [howner] at hholder hearlier
  rw [hdevice] at hholder
  cases hholder
  rw [Table.key_of_lookup hrow] at hearlier
  have hrotates : Rotates crypto labels request deviceId device.devicePublicKey
      refreshToken :=
    ⟨signature, device, hkind, hbody, rfl, by rw [hdb]; exact hpresents⟩
  have hrooted : Rooted crypto deviceId device.devicePublicKey
      (labels ++ [.request request])
      (tokenHash crypto "refresh" request.moment.secondRandom) :=
    .rotation hearlier hrotates
  rw [hnext] at hkeys ⊢
  apply earned_of_rows hearned hkeys
  · exact fun row hrow => .inl ⟨row.consumedAt, hrow⟩
  · intro found hfound
    obtain ⟨stored, hstored, hstoredDevice, hstoredHash⟩ := mem_of_devices hsame hfound
    rcases Table.mem_insert? hissued hstored with hold | rfl
    · exact .inl ⟨stored, hold, hstoredDevice, hstoredHash⟩
    · right
      rw [← hstoredDevice, ← hstoredHash]
      exact ⟨device, hdevice, hrooted⟩
  · intro found hfound
    rcases Table.mem_insert? haccess hfound with hold | rfl
    · exact .inl hold
    · exact .inr ⟨device, hdevice, labels, request, [], rfl, rfl, hrooted⟩

theorem earned_request :
    Earned crypto (labels ++ [.request request]) (serve crypto db request) := by
  have hkeys : KeepsKeys db (serve crypto db request) := serve_keepsKeys request
  rw [serve_requested] at hkeys ⊢
  cases hcall : requestedCall crypto request.moment.now request.frame db with
  | none => exact earned_unchanged hearned (hcall ▸ hkeys) rfl rfl rfl
  | some call =>
      rw [hcall] at hkeys
      have hextent := perform_extent crypto request.moment db call
      simp only [carryOut] at hkeys ⊢
      generalize hnext : call.perform crypto request.moment db = next at hkeys hextent ⊢
      cases call with
      | beginChallenge deviceId =>
          subst hnext
          exact earned_beginChallenge hdb hearned (kind_of_requested hcall) hkeys
      | completeChallenge challengeId signature =>
          subst hnext
          obtain ⟨hkind, hbody⟩ := requested_completeChallenge hcall
          exact earned_completeChallenge hearned hkind hbody hkeys
      | rotateRefresh deviceId refreshToken signature =>
          subst hnext
          obtain ⟨hkind, hbody⟩ := requested_rotateRefresh hcall
          exact earned_rotateRefresh hdb hearned hkind hbody hkeys
      | _ =>
          cases hextent
          exact earned_unchanged hearned hkeys rfl rfl rfl

end Requests

theorem earned_run (crypto : Crypto) (labels : List Label) :
    Earned crypto labels (run (step crypto) Database.migrated labels) := by
  apply run_history
  · exact ⟨by simp [Database.migrated, Table.empty],
      by simp [Database.migrated, Table.empty],
      by simp [Database.migrated, Table.empty]⟩
  · intro labels label hearned
    cases label with
    | request request => exact earned_request rfl hearned
    | revoke now deviceId =>
        exact earned_unchanged hearned (step_keepsKeys (.revoke now deviceId)) rfl rfl
          rfl
    | cleanup now batch scan =>
        exact earned_unchanged hearned (step_keepsKeys (.cleanup now batch scan)) rfl
          rfl rfl

theorem authenticateAccess_eq_ok {crypto : Crypto} {now : Time} {token : Id32}
    {db : Database} {deviceId : Id16} :
    authenticateAccess crypto now token db = .ok deviceId ↔
      ∃ row, db.accessSessions.lookup (tokenHash crypto "access" token) = some row ∧
        row.deviceId = deviceId ∧ now < row.expiresAt ∧
        (activeDevice db deviceId).isSome = true := by
  unfold authenticateAccess
  cases hlookup : db.accessSessions.lookup (tokenHash crypto "access" token) with
  | none => simp
  | some row =>
      dsimp only
      split_ifs with hlive
      · constructor
        · intro hok
          cases hok
          exact ⟨row, rfl, rfl, hlive⟩
        · rintro ⟨_, hrow, rfl, -⟩
          cases hrow
          rfl
      · constructor
        · intro hok
          cases hok
        · rintro ⟨_, hrow, rfl, hnow⟩
          cases hrow
          exact absurd hnow hlive

/-- Whoever is authenticated by an access token is an unrevoked device that was
issued the token less than fifteen minutes ago, and all that led to it was signed
with the key the device has. -/
theorem access_is_earned (crypto : Crypto) (labels : List Label) (now : Time)
    (token : Id32) (deviceId : Id16)
    (haccess : authenticateAccess crypto now token
      (run (step crypto) Database.migrated labels) = .ok deviceId) :
    ∃ device before request after,
      activeDevice (run (step crypto) Database.migrated labels) deviceId =
        some device ∧
      labels = before ++ .request request :: after ∧
      tokenHash crypto "access" request.moment.firstRandom =
        tokenHash crypto "access" token ∧
      now < request.moment.now + seconds accessTtlSeconds ∧
      Rooted crypto deviceId device.devicePublicKey (before ++ [.request request])
        (tokenHash crypto "refresh" request.moment.secondRandom) := by
  obtain ⟨row, hlookup, rfl, hlive, hactive⟩ := authenticateAccess_eq_ok.mp haccess
  obtain ⟨device, hdevice⟩ := Option.isSome_iff_exists.mp hactive
  obtain ⟨owner, howner, before, request, after, hlabels, hrow, hrooted⟩ :=
    (earned_run crypto labels).access row (Table.mem_of_lookup hlookup)
  rw [activeDevice_eq_some hdevice] at howner
  cases howner
  refine ⟨device, before, request, after, hdevice, hlabels, ?_, ?_, hrooted⟩
  · rw [← Table.key_of_lookup hlookup, hrow]
    rfl
  · rw [hrow] at hlive
    exact hlive

/-- A device registers, asks for a challenge and answers it. -/
def login : List Label :=
  [.request ⟨Responses.sessionMoment, Responses.sessionFrame .clientHello
      (Responses.neutralAccount.toList ++ SignatureScheme.neutralKey.toList ++
        List.replicate 16 3 ++ SignatureScheme.neutralKey.toList ++
        List.replicate 8 0 ++ SignatureScheme.neutralSignature.toList)⟩,
    .request ⟨Responses.sessionMoment, Responses.sessionFrame .authChallenge
      (List.replicate 16 3)⟩,
    .request ⟨Responses.sessionMoment, Responses.sessionFrame .authResponse
      (List.replicate 16 6 ++ SignatureScheme.neutralSignature.toList)⟩]

theorem login_is_earned :
    authenticateAccess Responses.sessionCrypto 1000 (FixedBytes.fill 32 0)
        (run (step Responses.sessionCrypto) Database.migrated login) =
      .ok (FixedBytes.fill 16 3) ∧
    ∃ device before request after,
      activeDevice (run (step Responses.sessionCrypto) Database.migrated login)
        (FixedBytes.fill 16 3) = some device ∧
      login = before ++ .request request :: after ∧
      tokenHash Responses.sessionCrypto "access" request.moment.firstRandom =
        tokenHash Responses.sessionCrypto "access" (FixedBytes.fill 32 0) ∧
      1000 < request.moment.now + seconds accessTtlSeconds ∧
      Rooted Responses.sessionCrypto (FixedBytes.fill 16 3) device.devicePublicKey
        (before ++ [.request request])
        (tokenHash Responses.sessionCrypto "refresh" request.moment.secondRandom) := by
  have haccess : authenticateAccess Responses.sessionCrypto 1000 (FixedBytes.fill 32 0)
      (run (step Responses.sessionCrypto) Database.migrated login) =
        .ok (FixedBytes.fill 16 3) := by
    decide +kernel
  exact ⟨haccess, access_is_earned Responses.sessionCrypto login 1000
    (FixedBytes.fill 32 0) (FixedBytes.fill 16 3) haccess⟩

end ResilientMessenger.Sessions
