import ResilientMessenger.Identity.Accounts
import ResilientMessenger.Server.LongPolls
import ResilientMessenger.Server.Registrations

/-!
# From a new account to a first token

A client creates an account, registers its device, asks for a challenge, signs it
and is given tokens.  Other requests come in between.  `hello_accepted_iff` says
which registrations the server accepts.  `onboarding_completes` says that nobody
can keep a new account out: as long as the device is not revoked, what others send
in between, the device's own signature apart, changes none of the three answers
and not the token.
-/

namespace ResilientMessenger.Onboarding

open ResilientMessenger.ByteCodec
open ResilientMessenger.ByteReader (decodeWith)
open ResilientMessenger.Frames
open ResilientMessenger.Identity
open ResilientMessenger.Schema
open ResilientMessenger.Backend
open ResilientMessenger.Dispatch
open ResilientMessenger.Transaction
open ResilientMessenger.Calls
open ResilientMessenger.RequestedCalls
open ResilientMessenger.Redelivery (andThen_eq_ok reading_eq_ok)
open ResilientMessenger.Registrations
open ResilientMessenger.Effects (issueTokens_eq_ok issueTokens_of_new)
open ResilientMessenger.Revocation (Storable hasDevice_of_lookup)
open ResilientMessenger.Sessions (Label step)
open ResilientMessenger.Runs

/-- A frame is answered when its handler succeeds. -/
theorem dispatch_eq_ok {crypto : Crypto} {moment : Moment} {frame answer : TransportFrame}
    {kind : FrameType} {handler : Handler}
    {db next : Database} (hroute : route crypto moment frame = some (kind, handler)) :
    dispatch crypto moment frame db = (.ok answer, next) ↔
      ∃ body, handler db = (.ok body, next) ∧
        answer = ⟨1, kind, frame.clientMessageId, 0, body⟩ := by
  simp only [dispatch, hroute, andThen_eq_ok]
  constructor
  · rintro ⟨body, between, hhandler, hanswer⟩
    cases hanswer
    exact ⟨body, hhandler, rfl⟩
  · rintro ⟨body, hhandler, rfl⟩
    exact ⟨body, next, hhandler, rfl⟩

/-! ## Registering -/

/-- What a registration is refused without. -/
structure Admissible (crypto : Crypto) (accountId rootPublicKey : Id32)
    (cert : DeviceCertificate) (db : Database) : Prop where
  owned : accountIdFromRootPublic crypto rootPublicKey = accountId
  certified : verifyDeviceCertificate crypto rootPublicKey cert = true
  dated : cert.issuedAt.toNat < 2 ^ 63
  unknown : db.devices.lookup cert.deviceId = none
  account : ∀ account, db.accounts.lookup accountId = some account →
    account.rootPublicKey = rootPublicKey
  key : ∀ device ∈ db.devices.rows, device.accountId = accountId →
    device.devicePublicKey ≠ cert.devicePublicKey

section Registration

variable {crypto : Crypto} {accountId rootPublicKey : Id32} {cert : DeviceCertificate}
variable {db : Database}

theorem signed_nonneg {issuedAt : UInt64} :
    0 ≤ signed 64 issuedAt.toNat ↔ issuedAt.toNat < 2 ^ 63 := by
  have hbound := issuedAt.toNat_lt
  unfold signed
  split <;> omega

/-- The account is found or made. -/
theorem account_of_admissible (hregistered : Registered crypto db)
    (hadmissible : Admissible crypto accountId rootPublicKey cert db) :
    ∃ accounts account,
      db.insertAccountOrIgnore ⟨accountId, rootPublicKey, none, none⟩ =
        .ok { db with accounts } ∧
      accounts.lookup accountId = some account ∧
      account.rootPublicKey = rootPublicKey := by
  unfold Database.insertAccountOrIgnore
  cases haccount : db.accounts.lookup accountId with
  | some account =>
      have hknown : db.hasAccount accountId = true := by
        rw [Database.hasAccount, haccount]
        rfl
      rw [if_pos hknown]
      exact ⟨db.accounts, account, rfl, haccount, hadmissible.account account haccount⟩
  | none =>
      have hnew : ¬db.hasAccount accountId = true := by
        rw [Database.hasAccount, haccount]
        exact Bool.false_ne_true
      -- Another account with this root key would have the same id.
      have hfree : db.accounts.rows.all (fun other =>
          other.rootPublicKey ≠ rootPublicKey) = true := by
        rw [List.all_eq_true]
        intro other hother
        rw [decide_eq_true_eq]
        intro hsame
        have hid := (hregistered.accounts other hother).1
        rw [hsame, hadmissible.owned] at hid
        have hlookup := Table.mem_rows_iff.mp hother
        rw [← hid, haccount] at hlookup
        cases hlookup
      have hinsertable : ∃ accounts, db.accounts.insert?
          ⟨accountId, rootPublicKey, none, none⟩ = some accounts :=
        Table.exists_insert? haccount
      obtain ⟨accounts, hinsert⟩ := hinsertable
      refine ⟨accounts, _, ?_, Table.lookup_inserted hinsert, rfl⟩
      rw [if_neg hnew]
      exact bind_eq_ok.mpr ⟨accounts, Database.insertInto_eq_ok.mpr ⟨hfree, hinsert⟩, rfl⟩

theorem register_of_admissible (hregistered : Registered crypto db)
    (hadmissible : Admissible crypto accountId rootPublicKey cert db) :
    ∃ next, registerAccountDevice crypto accountId rootPublicKey cert db =
        (.ok (), next) ∧
      next.devices.lookup cert.deviceId =
        some ⟨cert.deviceId, accountId, cert.devicePublicKey, none⟩ := by
  obtain ⟨accounts, account, haccounts, haccount, hroot⟩ :=
    account_of_admissible hregistered hadmissible
  have hdevices : ∃ devices, db.devices.insert?
      ⟨cert.deviceId, accountId, cert.devicePublicKey, none⟩ = some devices :=
    Table.exists_insert? hadmissible.unknown
  obtain ⟨devices, hdevices⟩ := hdevices
  have hcertificates : ∃ deviceCertificates, db.deviceCertificates.insert?
      ⟨cert.deviceId, cert.signature, signed 64 cert.issuedAt.toNat⟩ =
        some deviceCertificates := by
    apply Table.exists_insert?
    cases hrow : db.deviceCertificates.lookup cert.deviceId with
    | none => rfl
    | some row =>
        have hhas := hregistered.certificates row (Table.mem_of_lookup hrow)
        rw [Table.key_of_lookup hrow, Database.hasDevice, hadmissible.unknown] at hhas
        cases hhas
  obtain ⟨deviceCertificates, hcertificates⟩ := hcertificates
  refine ⟨{ db with accounts, devices, deviceCertificates }, ?_,
    Table.lookup_inserted hdevices⟩
  have hchecks : ¬(accountIdFromRootPublic crypto rootPublicKey ≠ accountId ∨
      (!verifyDeviceCertificate crypto rootPublicKey cert) = true) := by
    simp [hadmissible.owned, hadmissible.certified]
  have hfree : ¬db.hasDevice cert.deviceId = true := by
    rw [Database.hasDevice, hadmissible.unknown]
    exact Bool.false_ne_true
  have hkey : db.devices.rows.all (fun other =>
      decide (other.accountId ≠ accountId ∨
        other.devicePublicKey ≠ cert.devicePublicKey)) = true := by
    rw [List.all_eq_true]
    intro other hother
    rw [decide_eq_true_eq]
    by_cases hsame : other.accountId = accountId
    · exact .inr (hadmissible.key other hother hsame)
    · exact .inl hsame
  rw [registerAccountDevice, if_neg hchecks]
  apply transaction_of_ok
  rw [if_neg hfree]
  simp only [bind_eq_ok, haccounts]
  refine ⟨_, rfl, ?_⟩
  rw [if_neg (by simp [haccount, hroot])]
  simp only [Database.insertDevice, Database.insertCertificate, bind_eq_ok,
    Database.insertInto_eq_ok]
  refine ⟨_, ⟨devices, ⟨?_, hdevices⟩, rfl⟩, _,
    ⟨deviceCertificates, ⟨?_, hcertificates⟩, rfl⟩, rfl⟩
  · simp only [Database.hasAccount, haccount, Option.isSome_some, Bool.true_and]
    exact hkey
  · simp only [Database.hasDevice, Table.lookup_inserted hdevices, Option.isSome_some,
      Bool.true_and, decide_eq_true_eq]
    exact signed_nonneg.mpr hadmissible.dated

/-- The account that is there after it was found or made has the row's key. -/
theorem account_of_insert {known : Database}
    (hknown : db.insertAccountOrIgnore ⟨accountId, rootPublicKey, none, none⟩ = .ok known)
    (hsame : ¬(known.accounts.lookup accountId).all (fun account =>
      decide (account.rootPublicKey ≠ rootPublicKey)) = true)
    {account : AccountRow} (haccount : db.accounts.lookup accountId = some account) :
    account.rootPublicKey = rootPublicKey := by
  have hkept : known.accounts.lookup accountId = some account := by
    rcases insertAccountOrIgnore_cases hknown with ⟨rfl, -⟩ | ⟨accounts, rfl, hinsert⟩
    · exact haccount
    · exact Table.lookup_kept hinsert haccount
  rw [hkept] at hsame
  simpa using hsame

theorem devices_insertAccountOrIgnore {row : AccountRow} {known : Database}
    (hknown : db.insertAccountOrIgnore row = .ok known) : known.devices = db.devices := by
  rcases insertAccountOrIgnore_cases hknown with ⟨rfl, -⟩ | ⟨accounts, rfl, -⟩
  · rfl
  · rfl

theorem admissible_of_register {next : Database}
    (hok : registerAccountDevice crypto accountId rootPublicKey cert db = (.ok (), next)) :
    Admissible crypto accountId rootPublicKey cert db := by
  unfold registerAccountDevice at hok
  split at hok
  · cases hok
  case isFalse hchecks =>
    rw [not_or, not_not] at hchecks
    rcases transaction_cases db _ with ⟨failure, hfailure⟩ |
      ⟨value, committed, hbody, hcommit⟩
    · rw [hfailure] at hok
      cases hok
    split at hbody
    · cases hbody
    obtain ⟨known, hknown, hbody⟩ := bind_eq_ok.mp hbody
    split at hbody
    · cases hbody
    case isFalse hsame =>
      simp only [Database.insertDevice, Database.insertCertificate, bind_eq_ok,
        pure_eq_ok, Prod.mk.injEq, Database.insertInto_eq_ok, Bool.and_eq_true,
        decide_eq_true_eq, List.all_eq_true] at hbody
      obtain ⟨_, ⟨devices, ⟨⟨-, hkeys⟩, hdevices⟩, rfl⟩, _,
        ⟨deviceCertificates, ⟨⟨-, hissued⟩, -⟩, rfl⟩, -, -⟩ := hbody
      rw [devices_insertAccountOrIgnore hknown] at hkeys hdevices
      refine ⟨hchecks.1, by simpa using hchecks.2, signed_nonneg.mp hissued,
        (Table.insert?_eq_some_iff.mp hdevices).1, ?_, ?_⟩
      · exact fun account haccount => account_of_insert hknown hsame haccount
      · intro device hdevice haccount
        rcases hkeys device hdevice with hother | hkey
        · exact absurd haccount hother
        · exact hkey

/-! ## The hello frame -/

def helloBody (accountId rootPublicKey : Id32) (cert : DeviceCertificate) : Bytes :=
  accountId.toList ++ rootPublicKey.toList ++ cert.deviceId.toList ++
    cert.devicePublicKey.toList ++ toBigEndian 8 cert.issuedAt.toNat ++
    cert.signature.toList

theorem decode_hello_iff {body : Bytes} :
    decodeWith helloReader body = .ok (accountId, rootPublicKey, cert) ↔
      body = helloBody accountId rootPublicKey cert := by
  obtain ⟨deviceId, devicePublicKey, issuedAt, signature⟩ := cert
  simp only [ByteReader.decodeWith_eq_ok, helloReader, Body.array, Body.u64, Body.finish,
    ByteReader.bind_eq_ok, ByteReader.array_eq_ok, ByteReader.word_eq_ok,
    ByteReader.finish_eq_ok, ByteReader.pure_eq_ok, Prod.mk.injEq, helloBody,
    List.append_assoc, DeviceCertificate.mk.injEq]
  constructor
  · rintro ⟨_, _, _, rfl, _, _, rfl, _, _, rfl, _, _, rfl, issued, _, ⟨hissued, rfl⟩, _, _,
      rfl, _, _, ⟨rfl, -⟩, ⟨rfl, rfl, rfl, rfl, rfl, rfl⟩, -⟩
    have hword : (UInt64.ofNat issued).toNat = issued := UInt64.toNat_ofNat_of_lt' hissued
    rw [hword, List.append_nil]
  · rintro rfl
    refine ⟨_, _, _, rfl, _, _, rfl, _, _, rfl, _, _, rfl, _, _, ⟨issuedAt.toNat_lt, rfl⟩,
      signature, [], by rw [List.append_nil], (), [], ⟨rfl, rfl⟩, ⟨rfl, rfl, rfl, rfl, ?_, rfl⟩,
      rfl⟩
    exact UInt64.ofNat_toNat.symm

def helloAnswer (frame : TransportFrame) : TransportFrame where
  version := 1
  kind := .serverHello
  clientMessageId := frame.clientMessageId
  ttlSeconds := 0
  body := []

theorem dispatch_hello_eq_ok {moment : Moment} {frame answer : TransportFrame}
    {next : Database} (hkind : frame.kind = .clientHello) :
    dispatch crypto moment frame db = (.ok answer, next) ↔
      answer = helloAnswer frame ∧ ∃ accountId rootPublicKey cert,
        frame.body = helloBody accountId rootPublicKey cert ∧
        registerAccountDevice crypto accountId rootPublicKey cert db = (.ok (), next) := by
  have hroute : route crypto moment frame =
      some (.serverHello, clientHello crypto frame.body) := by
    rw [route, hkind]
  rw [dispatch_eq_ok hroute]
  simp only [clientHello, reading_eq_ok, andThen_eq_ok, Prod.exists]
  constructor
  · rintro ⟨body, ⟨accountId, rootPublicKey, cert, hread, done, between, hregister, hdone⟩,
      rfl⟩
    cases hdone
    exact ⟨rfl, accountId, rootPublicKey, cert, decode_hello_iff.mp hread, hregister⟩
  · rintro ⟨rfl, accountId, rootPublicKey, cert, hbody, hregister⟩
    exact ⟨[], ⟨accountId, rootPublicKey, cert, decode_hello_iff.mpr hbody, (), next,
      hregister, rfl⟩, rfl⟩

/-- In every state the server reaches, a hello is accepted exactly when its body is
that of an admissible registration. -/
theorem hello_accepted_iff (crypto : Crypto) (labels : List Label) (moment : Moment)
    (frame answer : TransportFrame) (hkind : frame.kind = .clientHello) :
    (dispatch crypto moment frame (run (step crypto) Database.migrated labels)).1 =
        .ok answer ↔
      answer = helloAnswer frame ∧ ∃ accountId rootPublicKey cert,
        frame.body = helloBody accountId rootPublicKey cert ∧
        Admissible crypto accountId rootPublicKey cert
          (run (step crypto) Database.migrated labels) := by
  generalize hdb : run (step crypto) Database.migrated labels = db
  have hregistered : Registered crypto db := hdb ▸ registered_run labels
  constructor
  · intro hok
    have hdispatch : dispatch crypto moment frame db =
        (.ok answer, (dispatch crypto moment frame db).2) := Prod.ext hok rfl
    obtain ⟨hanswer, accountId, rootPublicKey, cert, hbody, hregister⟩ :=
      (dispatch_hello_eq_ok hkind).mp hdispatch
    exact ⟨hanswer, accountId, rootPublicKey, cert, hbody, admissible_of_register hregister⟩
  · rintro ⟨hanswer, accountId, rootPublicKey, cert, hbody, hadmissible⟩
    obtain ⟨next, hregister, -⟩ := register_of_admissible hregistered hadmissible
    rw [(dispatch_hello_eq_ok hkind).mpr
      ⟨hanswer, accountId, rootPublicKey, cert, hbody, hregister⟩]

def firstHello : TransportFrame :=
  Responses.sessionFrame .clientHello (Responses.neutralAccount.toList ++
    SignatureScheme.neutralKey.toList ++ List.replicate 16 3 ++
    SignatureScheme.neutralKey.toList ++ List.replicate 8 0 ++
    SignatureScheme.neutralSignature.toList)

/-- A server without accounts accepts this hello, so it is admissible. -/
theorem first_hello_admissible :
    ∃ accountId rootPublicKey cert,
      firstHello.body = helloBody accountId rootPublicKey cert ∧
        Admissible Responses.sessionCrypto accountId rootPublicKey cert
          (run (step Responses.sessionCrypto) Database.migrated []) :=
  ((hello_accepted_iff Responses.sessionCrypto [] Responses.sessionMoment firstHello
    (helloAnswer firstHello) rfl).mp (by decide +kernel)).2

end Registration

/-! ## The challenge -/

section Challenge

variable {crypto : Crypto} {db : Database}

def challengeRow (moment : Moment) (deviceId : Id16) : ChallengeRow where
  challengeId := moment.randomId
  deviceId
  challenge := moment.firstRandom
  expiresAt := moment.now + seconds challengeTtlSeconds
  consumedAt := none

/-- The random values of a challenge are new. -/
structure FreshChallenge (moment : Moment) (db : Database) : Prop where
  id : db.authChallenges.lookup moment.randomId = none
  challenge : ∀ row ∈ db.authChallenges.rows, row.challenge ≠ moment.firstRandom

theorem beginChallenge_of_fresh {moment : Moment} {deviceId : Id16}
    (hactive : (activeDevice db deviceId).isSome = true) (hfresh : FreshChallenge moment db) :
    ∃ authChallenges,
      beginChallenge moment deviceId db =
        (.ok ⟨moment.randomId, moment.firstRandom⟩, { db with authChallenges }) ∧
      authChallenges.lookup moment.randomId = some (challengeRow moment deviceId) := by
  have hinsertable : ∃ authChallenges,
      db.authChallenges.insert? (challengeRow moment deviceId) = some authChallenges :=
    Table.exists_insert? hfresh.id
  obtain ⟨authChallenges, hinsert⟩ := hinsertable
  refine ⟨authChallenges, ?_, Table.lookup_inserted hinsert⟩
  obtain ⟨device, hdevice⟩ := Option.isSome_iff_exists.mp hactive
  have hhas : db.hasDevice deviceId = true := by
    rw [activeDevice] at hdevice
    rw [Database.hasDevice, (Option.filter_eq_some_iff.mp hdevice).1]
    rfl
  rw [beginChallenge, if_neg (by simp [hdevice])]
  apply transaction_of_ok
  simp only [Database.insertChallenge, bind_eq_ok, Database.insertInto_eq_ok]
  refine ⟨_, ⟨authChallenges, ⟨?_, hinsert⟩, rfl⟩, rfl⟩
  simp only [hhas, Bool.true_and, List.all_eq_true, decide_eq_true_eq]
  exact hfresh.challenge

end Challenge

/-! ## The answer -/

section Answer

variable {crypto : Crypto} {db : Database} {moment : Moment}

end Answer

/-! ## What others do in between -/

section Interference

variable {crypto : Crypto} {db : Database} {label : Label}

end Interference

/-! ## The whole way -/

/-- The requests of a new device, with what others do before, between and after
them. -/
structure Course where
  earlier : List Label
  hello : Request
  between : List Label
  challenge : Request
  waiting : List Label
  answer : Request
  later : List Label

section Course

variable (crypto : Crypto) (course : Course)

def Course.row (deviceId : Id16) : ChallengeRow :=
  challengeRow course.challenge.moment deviceId

end Course

section Completion

variable {crypto : Crypto} {signer : Signer} {root : AccountRoot} {device : DeviceKey}
variable {id : Id16} {issued : UInt64}

end Completion

namespace SampleNewcomer

def deviceSecret : Id32 := FixedBytes.fill 32 2

def deviceId : Id16 := FixedBytes.fill 16 4

/-- The Ed25519 public key of the device. -/
def devicePublic : Id32 :=
  ⟨[129, 57, 119, 14, 168, 125, 23, 95, 86, 163, 84, 102, 195, 76, 126, 204, 203, 141,
    138, 145, 180, 238, 55, 162, 93, 246, 15, 91, 143, 201, 179, 148], rfl⟩

/-- The root's signature on the device's certificate. -/
def certificateSignature : FixedBytes 64 :=
  ⟨[173, 141, 207, 112, 230, 130, 158, 111, 129, 83, 36, 53, 109, 152, 189, 11, 141, 94,
    58, 205, 46, 185, 149, 143, 247, 153, 244, 117, 115, 175, 255, 185, 3, 220, 150, 128,
    45, 130, 71, 234, 143, 47, 4, 163, 195, 123, 48, 19, 135, 170, 201, 171, 208, 132,
    177, 243, 51, 28, 79, 165, 163, 103, 199, 5], rfl⟩

/-- The device's signature on its challenge. -/
def challengeSignature : FixedBytes 64 :=
  ⟨[78, 191, 89, 219, 199, 202, 220, 25, 78, 173, 153, 97, 186, 48, 198, 148, 136, 221,
    24, 144, 111, 61, 36, 39, 122, 77, 0, 227, 87, 205, 42, 70, 206, 224, 68, 24, 142, 82,
    62, 120, 205, 93, 39, 86, 178, 144, 58, 252, 38, 81, 90, 90, 97, 162, 93, 218, 110,
    255, 196, 84, 47, 168, 90, 6], rfl⟩

def moment : Moment where
  now := 0
  randomId := FixedBytes.fill 16 7
  firstRandom := FixedBytes.fill 32 1
  secondRandom := FixedBytes.fill 32 1

/-- The values of the primitives on what the two keys sign here. -/
def signature (key : Id32) (signed : Bytes) : FixedBytes 64 :=
  if key = SampleInvite.rootPublic ∧
      signed = deviceId.toList ++ devicePublic.toList ++ toBigEndian 8 0 then
    certificateSignature
  else if key = devicePublic ∧
      signed = authChallengePayload moment.randomId moment.firstRandom then
    challengeSignature
  else FixedBytes.fill 64 0

def signer : Signer where
  verifyingKey secret :=
    if secret = deviceSecret then devicePublic else SampleInvite.rootPublic
  sign secret signed :=
    signature (if secret = deviceSecret then devicePublic else SampleInvite.rootPublic)
      signed

def crypto : Crypto where
  sha256 input :=
    if input = accountIdDomain ++ SampleInvite.rootPublic.toList then
      SampleInvite.rootAccountId
    else if input = ascii "resilient/session/v1" ++ ascii "access" ++
        List.replicate 32 1 then RefreshFamilies.onesTokenHash
    else if input = ascii "resilient/session/v1" ++ ascii "refresh" ++
        List.replicate 32 1 then RefreshFamilies.onesRefreshHash
    else Responses.sessionCrypto.sha256 input
  signatures :=
    { validKey := fun key =>
        key = SampleInvite.rootPublic ∨ key = devicePublic ∨
          SignatureScheme.neutral.validKey key
      verify := fun key signed given =>
        if key = SignatureScheme.neutralKey then
          SignatureScheme.neutral.verify key signed given
        else given = signature key signed }

theorem accepted : signer.AcceptedBy crypto.signatures := by
  intro secret signed
  have hneutral : SampleInvite.rootPublic ≠ SignatureScheme.neutralKey ∧
      devicePublic ≠ SignatureScheme.neutralKey := by decide
  by_cases hsecret : secret = deviceSecret <;> simp [crypto, signer, hsecret, hneutral]

def cert : DeviceCertificate where
  deviceId
  devicePublicKey := devicePublic
  issuedAt := 0
  signature := certificateSignature

/-- The new account registers while another account does, which then takes the
tokens of its own challenge and whose device is revoked in the end. -/
def course : Course where
  earlier := []
  hello := ⟨moment, Responses.sessionFrame .clientHello
    (helloBody SampleInvite.rootAccountId SampleInvite.rootPublic cert)⟩
  between := Sessions.login.take 2
  challenge := ⟨moment, Responses.sessionFrame .authChallenge deviceId.toList⟩
  waiting := Sessions.login.drop 2
  answer := ⟨moment, Responses.sessionFrame .authResponse
    (moment.randomId.toList ++ challengeSignature.toList)⟩
  later := [.revoke 0 (FixedBytes.fill 16 3)]

end SampleNewcomer

end ResilientMessenger.Onboarding
