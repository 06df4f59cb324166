import ResilientMessenger.Server.RefreshFamilies

/-!
# Revoked devices

Revocation is a column of the devices table that an administrator sets.
`begin_challenge` and `authenticate_access` look at it, `complete_challenge` and
`rotate_refresh` do not.  A device that is revoked therefore still gets tokens
for a challenge it was sent before and for a refresh token it still holds, and
nothing else: in a run nothing is issued to revoked devices exactly when no
such challenge and no such token is presented.
-/

namespace ResilientMessenger.Revocation

open ResilientMessenger.ByteCodec
open ResilientMessenger.Identity
open ResilientMessenger.Schema
open ResilientMessenger.Backend
open ResilientMessenger.Transaction
open ResilientMessenger.Calls
open ResilientMessenger.Runs

inductive Label where
  | call (moment : Moment) (call : Call)
  | revoke (now : Time) (deviceId : Id16)

theorem deviceId_revoked (now : Time) (device : DeviceRow) :
    DeviceRow.deviceId { device with revokedAt := some now } = device.deviceId := rfl

/-- The administrative step: `UPDATE devices SET revoked_at WHERE device_id`. -/
def revokeDevice (now : Time) (deviceId : Id16) (db : Database) : Database :=
  { db with
    devices := db.devices.modify deviceId (fun _ => true)
      (fun device => { device with revokedAt := some now }) (deviceId_revoked now) }

def step (crypto : Crypto) (db : Database) : Label → Database
  | .call moment call => call.perform crypto moment db
  | .revoke now deviceId => revokeDevice now deviceId db

/-- The device that a challenge was issued for. -/
def challengedDevice (challengeId : Id16) (db : Database) : Option Id16 :=
  (db.authChallenges.lookup challengeId).map ChallengeRow.deviceId

/-- The device that a call issues a challenge or tokens to. -/
def issuedTo (crypto : Crypto) (db : Database) : Label → Option Id16
  | .call moment (.beginChallenge deviceId) =>
      if (beginChallenge moment deviceId db).1.isOk then some deviceId else none
  | .call moment (.completeChallenge challengeId signature) =>
      if (completeChallenge crypto moment challengeId signature db).1.isOk then
        challengedDevice challengeId db
      else none
  | .call moment (.rotateRefresh deviceId refreshToken signature) =>
      if (rotateRefresh crypto moment deviceId refreshToken signature db).1.isOk then
        some deviceId
      else none
  | _ => none

def isRevoked (db : Database) (deviceId : Id16) : Bool :=
  (db.devices.lookup deviceId).any fun device => device.revokedAt.isSome

/-- Nothing is issued to a revoked device. -/
def RefusesRevoked (crypto : Crypto) (db : Database) (label : Label) : Prop :=
  ∀ deviceId, issuedTo crypto db label = some deviceId →
    isRevoked db deviceId = false

/-- The random tokens of the call are not stored yet. -/
def Storable (crypto : Crypto) (moment : Moment) (db : Database) : Prop :=
  db.accessSessions.lookup (tokenHash crypto "access" moment.firstRandom) = none ∧
    db.refreshSessions.lookup (tokenHash crypto "refresh" moment.secondRandom) = none

/-- The challenge was sent to the device, is open and is signed by it. -/
def Answers (crypto : Crypto) (moment : Moment) (challengeId : Id16)
    (signature : FixedBytes 64) (db : Database) (device : DeviceRow) : Prop :=
  ∃ row, db.authChallenges.lookup challengeId = some row ∧
    db.devices.lookup row.deviceId = some device ∧ row.consumedAt = none ∧
    moment.now < row.expiresAt ∧
    crypto.verifies device.devicePublicKey
      (authChallengePayload challengeId row.challenge) signature = true

/-- The refresh token belongs to the device, is live and is signed by it. -/
def Presents (crypto : Crypto) (moment : Moment) (deviceId : Id16)
    (refreshToken : Id32) (signature : FixedBytes 64) (db : Database)
    (device : DeviceRow) : Prop :=
  ∃ row, db.refreshSessions.lookup (tokenHash crypto "refresh" refreshToken) =
      some row ∧
    row.deviceId = deviceId ∧ db.devices.lookup deviceId = some device ∧
    row.usedAt = none ∧ row.revokedAt = none ∧ moment.now < row.expiresAt ∧
    crypto.verifies device.devicePublicKey (refreshProofPayload refreshToken)
      signature = true

/-- No revoked device answers an open challenge or presents a live token. -/
def NothingOpen (crypto : Crypto) (db : Database) : Label → Prop
  | .call moment (.completeChallenge challengeId signature) =>
      ∀ device, device.revokedAt.isSome = true →
        Answers crypto moment challengeId signature db device →
          ¬Storable crypto moment db
  | .call moment (.rotateRefresh deviceId refreshToken signature) =>
      ∀ device, device.revokedAt.isSome = true →
        Presents crypto moment deviceId refreshToken signature db device →
          ¬Storable crypto moment db
  | _ => True

section Calls

variable {crypto : Crypto} {moment : Moment} {db : Database}

theorem isOk_iff {ε α : Type} {result : Except ε α} :
    result.isOk = true ↔ ∃ value, result = .ok value := by
  cases result with
  | error failure => simp [Except.isOk, Except.toBool]
  | ok value => simp [Except.isOk, Except.toBool]

/-- A transaction succeeds when its body does. -/
theorem transaction_isOk {ε α σ : Type} (state : σ) (body : σ → Except ε (α × σ)) :
    (transaction state body).1.isOk = (body state).isOk := by
  unfold transaction
  cases body state with
  | error failure => rfl
  | ok result => rfl

theorem bind_pure_isOk {ε α β : Type} (result : Except ε α) (f : α → β) :
    (result >>= fun value => pure (f value)).isOk = result.isOk := by
  cases result with
  | error failure => rfl
  | ok value => rfl

/-- Tokens can be stored for a known device unless they are stored already. -/
theorem issueTokens_isOk {deviceId : Id16} (family : Option Id16)
    (hdevice : db.hasDevice deviceId = true) :
    (issueTokens crypto moment deviceId family db).isOk = true ↔
      Storable crypto moment db := by
  constructor
  · intro hok
    obtain ⟨⟨tokens, next⟩, hissue⟩ := isOk_iff.mp hok
    obtain ⟨-, access, refresh, haccess, hrefresh, -⟩ :=
      Effects.issueTokens_eq_ok.mp hissue
    exact ⟨(Table.insert?_eq_some_iff.mp haccess).1,
      (Table.insert?_eq_some_iff.mp hrefresh).1⟩
  · rintro ⟨haccess, hrefresh⟩
    exact isOk_iff.mpr (Effects.issueTokens_of_new family hdevice haccess hrefresh)

theorem hasDevice_of_lookup {deviceId : Id16} {device : DeviceRow}
    (hdevice : db.devices.lookup deviceId = some device) :
    db.hasDevice deviceId = true := by
  rw [Database.hasDevice, hdevice]
  rfl

/-- When `complete_challenge` issues tokens. -/
theorem completeChallenge_isOk (challengeId : Id16) (signature : FixedBytes 64) :
    (completeChallenge crypto moment challengeId signature db).1.isOk = true ↔
      (∃ device, Answers crypto moment challengeId signature db device) ∧
        Storable crypto moment db := by
  rw [completeChallenge, transaction_isOk]
  constructor
  · intro hok
    split at hok
    · cases hok
    case h_2 row hchallenge =>
      split at hok
      · cases hok
      case h_2 device hdevice =>
        split_ifs at hok with hconsumed hexpired hsigned
        · cases hok
        · cases hok
        · cases hok
        rw [issueTokens_isOk none (by exact hasDevice_of_lookup hdevice)] at hok
        exact ⟨⟨device, row, hchallenge, hdevice, by simpa using hconsumed,
          not_le.mp hexpired, by simpa using hsigned⟩, hok⟩
  · rintro ⟨⟨device, row, hchallenge, hdevice, hconsumed, hopen, hsigned⟩, hstorable⟩
    simp only [hchallenge, hdevice, hconsumed, hsigned, Option.isSome_none,
      Bool.not_true, Bool.false_eq_true, if_false, if_neg (not_le.mpr hopen)]
    rw [issueTokens_isOk none (by exact hasDevice_of_lookup hdevice)]
    exact hstorable

/-- When `rotate_refresh` issues tokens. -/
theorem rotateRefresh_isOk (deviceId : Id16) (refreshToken : Id32)
    (signature : FixedBytes 64) :
    (rotateRefresh crypto moment deviceId refreshToken signature db).1.isOk = true ↔
      (∃ device, Presents crypto moment deviceId refreshToken signature db device) ∧
        Storable crypto moment db := by
  unfold rotateRefresh
  dsimp only
  constructor
  · intro hok
    split at hok
    case h_2 => cases hok
    case h_1 row device hfound hdevice =>
      obtain ⟨hrow, howner⟩ := Option.filter_eq_some_iff.mp hfound
      split_ifs at hok with hspent hexpired hsigned
      · cases hok
      · cases hok
      · cases hok
      rw [not_or] at hspent
      rw [transaction_isOk, bind_pure_isOk,
        issueTokens_isOk _ (hasDevice_of_lookup hdevice)] at hok
      exact ⟨⟨device, row, hrow, of_decide_eq_true howner, hdevice,
        by simpa using hspent.1, by simpa using hspent.2, not_le.mp hexpired,
        by simpa using hsigned⟩, hok⟩
  · rintro ⟨⟨device, row, hrow, howner, hdevice, hused, hrevoked, hopen, hsigned⟩,
      hstorable⟩
    have hfound : (db.refreshSessions.lookup
        (tokenHash crypto "refresh" refreshToken)).filter (fun row =>
          row.deviceId = deviceId) = some row :=
      Option.filter_eq_some_iff.mpr ⟨hrow, decide_eq_true howner⟩
    simp only [hfound, hdevice, hused, hrevoked, hsigned, Option.isSome_none,
      Bool.not_true, Bool.false_eq_true, if_false, if_neg (not_le.mpr hopen), or_self]
    rw [transaction_isOk, bind_pure_isOk,
      issueTokens_isOk _ (hasDevice_of_lookup hdevice)]
    exact hstorable

/-- `begin_challenge` refuses a revoked device itself. -/
theorem beginChallenge_isOk {deviceId : Id16}
    (hok : (beginChallenge moment deviceId db).1.isOk = true) :
    isRevoked db deviceId = false := by
  unfold beginChallenge at hok
  split at hok
  · cases hok
  case isFalse hactive =>
    rw [Option.isNone_iff_eq_none] at hactive
    obtain ⟨device, hdevice⟩ := Option.ne_none_iff_exists'.mp hactive
    obtain ⟨hlookup, hunrevoked⟩ := Option.filter_eq_some_iff.mp hdevice
    rw [isRevoked, hlookup, Option.any_some]
    simpa using hunrevoked

theorem issuedTo_completeChallenge (challengeId : Id16) (signature : FixedBytes 64)
    (deviceId : Id16) :
    issuedTo crypto db (.call moment (.completeChallenge challengeId signature)) =
        some deviceId ↔
      ∃ device, device.deviceId = deviceId ∧
        Answers crypto moment challengeId signature db device ∧
        Storable crypto moment db := by
  simp only [issuedTo]
  split
  case isFalse hok =>
    simp only [reduceCtorEq, false_iff]
    rintro ⟨device, -, hanswers, hstorable⟩
    exact hok ((completeChallenge_isOk challengeId signature).mpr
      ⟨⟨device, hanswers⟩, hstorable⟩)
  case isTrue hok =>
    obtain ⟨⟨device, hanswers⟩, hstorable⟩ :=
      (completeChallenge_isOk challengeId signature).mp hok
    have ⟨row, hchallenge, hdevice, _⟩ := hanswers
    have hissued : challengedDevice challengeId db = some device.deviceId := by
      rw [challengedDevice, hchallenge, Table.key_of_lookup hdevice]
      rfl
    rw [hissued, Option.some.injEq]
    constructor
    · intro hsame
      exact ⟨device, hsame, hanswers, hstorable⟩
    · rintro ⟨other, hsame, ⟨found, hfound, hother, -⟩, -⟩
      rw [hchallenge] at hfound
      cases hfound
      rw [hdevice] at hother
      cases hother
      exact hsame

theorem issuedTo_rotateRefresh (presenter : Id16) (refreshToken : Id32)
    (signature : FixedBytes 64) (deviceId : Id16) :
    issuedTo crypto db (.call moment (.rotateRefresh presenter refreshToken signature)) =
        some deviceId ↔
      ∃ device, device.deviceId = deviceId ∧
        Presents crypto moment presenter refreshToken signature db device ∧
        Storable crypto moment db := by
  simp only [issuedTo]
  split
  case isFalse hok =>
    simp only [reduceCtorEq, false_iff]
    rintro ⟨device, -, hpresents, hstorable⟩
    exact hok ((rotateRefresh_isOk presenter refreshToken signature).mpr
      ⟨⟨device, hpresents⟩, hstorable⟩)
  case isTrue hok =>
    obtain ⟨⟨device, hpresents⟩, hstorable⟩ :=
      (rotateRefresh_isOk presenter refreshToken signature).mp hok
    rw [Option.some.injEq]
    constructor
    · rintro rfl
      have ⟨row, _, _, hdevice, _⟩ := hpresents
      exact ⟨device, Table.key_of_lookup hdevice, hpresents, hstorable⟩
    · rintro ⟨other, rfl, ⟨row, -, -, hdevice, -⟩, -⟩
      exact (Table.key_of_lookup hdevice).symm

end Calls

/-- The devices something is issued to are not revoked exactly when no revoked
device passes the checks. -/
theorem refuses_iff {db : Database} {issued : Id16 → Prop} {Passes : DeviceRow → Prop}
    {Stored : Prop}
    (hissued : ∀ deviceId, issued deviceId ↔
      ∃ device, device.deviceId = deviceId ∧ Passes device ∧ Stored)
    (hknown : ∀ device, Passes device → db.devices.lookup device.deviceId = some device) :
    (∀ deviceId, issued deviceId → isRevoked db deviceId = false) ↔
      ∀ device, device.revokedAt.isSome = true → Passes device → ¬Stored := by
  constructor
  · intro hrefuses device hrevoked hpasses hstored
    have hunrevoked := hrefuses device.deviceId
      ((hissued device.deviceId).mpr ⟨device, rfl, hpasses, hstored⟩)
    rw [isRevoked, hknown device hpasses, Option.any_some, hrevoked] at hunrevoked
    cases hunrevoked
  · intro hnothing deviceId hdevice
    obtain ⟨device, rfl, hpasses, hstored⟩ := (hissued deviceId).mp hdevice
    rw [isRevoked, hknown device hpasses, Option.any_some]
    rw [Bool.eq_false_iff]
    intro hrevoked
    exact hnothing device hrevoked hpasses hstored

/-- A call issues something to a revoked device exactly when it completes an
open challenge or rotates a live token of that device. -/
theorem refusesRevoked_iff_nothingOpen (crypto : Crypto) (db : Database)
    (label : Label) :
    RefusesRevoked crypto db label ↔ NothingOpen crypto db label := by
  cases label with
  | revoke now deviceId => simp [RefusesRevoked, issuedTo, NothingOpen]
  | call moment call =>
      cases call with
      | beginChallenge deviceId =>
          refine iff_of_true ?_ trivial
          intro other hother
          simp only [issuedTo] at hother
          split at hother
          case isTrue hok =>
            cases hother
            exact beginChallenge_isOk hok
          case isFalse => cases hother
      | completeChallenge challengeId signature =>
          apply refuses_iff (issuedTo_completeChallenge challengeId signature)
          rintro device ⟨row, -, hdevice, -⟩
          rw [Table.key_of_lookup hdevice]
          exact hdevice
      | rotateRefresh deviceId refreshToken signature =>
          apply refuses_iff (issuedTo_rotateRefresh deviceId refreshToken signature)
          rintro device ⟨row, -, -, hdevice, -⟩
          rw [Table.key_of_lookup hdevice]
          exact hdevice
      | _ => simp [RefusesRevoked, issuedTo, NothingOpen]

/-- In every run nothing is issued to revoked devices exactly when none of them
answers a challenge that is still open or presents a refresh token that is still
live. -/
theorem revoked_refused_iff_nothing_open (crypto : Crypto) (start : Database)
    (labels : List Label) :
    Guarded (step crypto) (RefusesRevoked crypto) start labels ↔
      Guarded (step crypto) (NothingOpen crypto) start labels := by
  constructor
  · exact guarded_mono fun db label =>
      (refusesRevoked_iff_nothingOpen crypto db label).mp
  · exact guarded_mono fun db label =>
      (refusesRevoked_iff_nothingOpen crypto db label).mpr

/-- The device asks for a challenge, is revoked and then answers it. -/
def answeredAfterRevocation : List Label :=
  [.call (RefreshFamilies.rotationMoment 0) (.beginChallenge (FixedBytes.fill 16 3)),
    .revoke 0 (FixedBytes.fill 16 3),
    .call (RefreshFamilies.rotationMoment 0) (.completeChallenge
      (FixedBytes.fill 16 6) SignatureScheme.neutralSignature)]

theorem revoked_device_gets_tokens :
    ¬Guarded (step RefreshFamilies.rotationCrypto)
      (RefusesRevoked RefreshFamilies.rotationCrypto) RefreshFamilies.rotationServer
      answeredAfterRevocation := by
  intro hguarded
  have hrefuses := hguarded.2.2.1 (FixedBytes.fill 16 3) (by decide +kernel)
  revert hrefuses
  decide +kernel

end ResilientMessenger.Revocation
