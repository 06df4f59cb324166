import ResilientMessenger.Server.RefreshFamilies
import ResilientMessenger.Server.Responses
import ResilientMessenger.Transport.Outbox

/-!
# A refresh whose answer is lost

The transport sends a frame again on another channel when it gets no answer, and
the server takes a refresh token that is presented again for stolen.  Both are
composed here: the network decides for every attempt whether it reaches the
server and whether the answer comes back.  `family_kept_iff` says exactly which
of its decisions make the server revoke the family of a token that was used as
it should be.
-/

namespace ResilientMessenger.LostAnswers

open ResilientMessenger.ByteCodec
open ResilientMessenger.ByteReader (decodeWith)
open ResilientMessenger.Frames
open ResilientMessenger.Identity
open ResilientMessenger.Schema
open ResilientMessenger.Backend
open ResilientMessenger.Dispatch
open ResilientMessenger.Directory
open ResilientMessenger.Manager
open ResilientMessenger.Responses
open ResilientMessenger.RefreshFamilies

/-! ## The network -/

/-- What becomes of one attempt. -/
inductive Fate where
  | lost
  | answerLost
  | answered
  deriving DecidableEq

/-- The server's database and the fates of the attempts to come, each with the
moment it reaches the server.  When there are no more, nothing gets through. -/
structure Network where
  db : Database
  pending : List (Fate × Moment)

/-- A relay forwards a frame to the server and hands back what the server
answers, unless it refuses the request or the answer is not a frame. -/
def forward (crypto : Crypto) (db : Database) (moment : Moment) (bytes : Bytes) :
    Option Bytes × Database :=
  match TransportFrame.decode bytes with
  | .error _ => (none, db)
  | .ok frame =>
      match dispatch crypto moment frame db with
      | (.error _, db) => (none, db)
      | (.ok response, db) =>
          match TransportFrame.decode (cborResponse response) with
          | .error _ => (none, db)
          | .ok _ => (some (cborResponse response), db)

def transmit (crypto : Crypto) (network : Network) (bytes : Bytes) :
    Except TransportError Bytes × Network :=
  match network.pending with
  | [] => (.error .unavailable, network)
  | (.lost, _) :: pending => (.error .unavailable, { network with pending })
  | (.answerLost, moment) :: pending =>
      (.error .unavailable, ⟨(forward crypto network.db moment bytes).2, pending⟩)
  | (.answered, moment) :: pending =>
      match forward crypto network.db moment bytes with
      | (some value, db) => (.ok value, ⟨db, pending⟩)
      | (none, db) => (.error .unavailable, ⟨db, pending⟩)

/-- Every relay reaches the same server, over both channels. -/
def relays (crypto : Crypto) : EndpointSender Network where
  sendWebsocket network _ bytes := transmit crypto network bytes
  sendHttps network _ bytes := transmit crypto network bytes

/-! ## A flush as a number of attempts -/

/-- How often a frame is sent as long as nobody answers: twice to every endpoint
that is not cooling down. -/
def openAttempts {σ : Type} (now : UInt64) :
    List RelayEndpoint → TransportManager σ → ℕ
  | [], _ => 0
  | endpoint :: endpoints, manager =>
      let (health, manager) := manager.healthEntry endpoint.endpointId
      if now < health.retryAfter then openAttempts now endpoints manager
      else 2 + openAttempts now endpoints (manager.recordFailure now endpoint health)

/-- Send the bytes until there is an answer, at most `attempts` times. -/
def transmitAll (crypto : Crypto) (bytes : Bytes) :
    ℕ → Network → Option Bytes × Network
  | 0, network => (none, network)
  | attempts + 1, network =>
      match transmit crypto network bytes with
      | (.ok value, network) => (some value, network)
      | (.error _, network) => transmitAll crypto bytes attempts network

section Flush

variable {crypto : Crypto} {bytes : Bytes} {now : UInt64}

theorem transmitAll_answered {attempts : ℕ} {network : Network} {value : Bytes}
    (hanswer : (transmitAll crypto bytes attempts network).1 = some value)
    (more : ℕ) :
    transmitAll crypto bytes (attempts + more) network =
      transmitAll crypto bytes attempts network := by
  induction attempts generalizing network with
  | zero => cases hanswer
  | succ attempts ih =>
      rw [Nat.succ_add]
      simp only [transmitAll] at hanswer ⊢
      split
      · rfl
      case h_2 failure after htransmit =>
        rw [htransmit] at hanswer
        exact ih hanswer

theorem transmitAll_unanswered {attempts : ℕ} {network : Network}
    (hanswer : (transmitAll crypto bytes attempts network).1 = none) (more : ℕ) :
    transmitAll crypto bytes (attempts + more) network =
      transmitAll crypto bytes more (transmitAll crypto bytes attempts network).2 := by
  induction attempts generalizing network with
  | zero => rw [Nat.zero_add, transmitAll]
  | succ attempts ih =>
      rw [Nat.succ_add]
      simp only [transmitAll] at hanswer ⊢
      split
      case h_1 value after htransmit =>
        rw [htransmit] at hanswer
        cases hanswer
      case h_2 failure after htransmit =>
        rw [htransmit] at hanswer
        exact ih hanswer

theorem healthEntry_congr {σ : Type} {left right : TransportManager σ}
    (hhealth : left.health = right.health) (endpointId : Id16) :
    (left.healthEntry endpointId).1 = (right.healthEntry endpointId).1 ∧
      (left.healthEntry endpointId).2.health =
        (right.healthEntry endpointId).2.health := by
  unfold TransportManager.healthEntry
  rw [hhealth]
  cases right.health.lookup endpointId with
  | none => exact ⟨rfl, rfl⟩
  | some health => exact ⟨rfl, hhealth⟩

/-- Only the health of the endpoints matters. -/
theorem openAttempts_congr {σ : Type} (endpoints : List RelayEndpoint)
    {left right : TransportManager σ} (hhealth : left.health = right.health) :
    openAttempts now endpoints left = openAttempts now endpoints right := by
  induction endpoints generalizing left right with
  | nil => rfl
  | cons endpoint endpoints ih =>
      obtain ⟨hentry, hafter⟩ := healthEntry_congr hhealth endpoint.endpointId
      simp only [openAttempts, hentry]
      split
      · exact ih hafter
      · congr 1
        apply ih
        simp only [TransportManager.recordFailure, TransportManager.setHealth, hafter]

theorem send_spec (manager : TransportManager Network) (endpoint : RelayEndpoint) :
    (manager.send (relays crypto) endpoint bytes).1.toOption =
        (transmitAll crypto bytes 2 manager.sender).1 ∧
      (manager.send (relays crypto) endpoint bytes).2.1.sender =
        (transmitAll crypto bytes 2 manager.sender).2 ∧
      (manager.send (relays crypto) endpoint bytes).2.1.health = manager.health := by
  simp only [TransportManager.send, TransportManager.attempt, relays, transmitAll,
    TransportManager.countWebsocketFailure]
  rcases transmit crypto manager.sender bytes with ⟨failure | value, network⟩
  · dsimp only
    rcases transmit crypto network bytes with ⟨failure | value, last⟩ <;>
      exact ⟨rfl, rfl, rfl⟩
  · exact ⟨rfl, rfl, rfl⟩

/-- Trying the endpoints is sending the frame that many times. -/
theorem tryEndpoints_network (highestPriority : Option Id16)
    (endpoints : List RelayEndpoint) (manager : TransportManager Network) :
    (TransportManager.tryEndpoints (relays crypto) now bytes highestPriority endpoints
        manager).2.1.sender =
      (transmitAll crypto bytes (openAttempts now endpoints manager)
        manager.sender).2 := by
  induction endpoints generalizing manager with
  | nil => rfl
  | cons endpoint endpoints ih =>
      simp only [TransportManager.tryEndpoints, openAttempts]
      have hsender : (manager.healthEntry endpoint.endpointId).2.sender =
          manager.sender := by
        unfold TransportManager.healthEntry
        split <;> rfl
      generalize manager.healthEntry endpoint.endpointId = entry at hsender ⊢
      obtain ⟨health, entered⟩ := entry
      dsimp only at hsender ⊢
      split
      · rw [ih, hsender]
      · obtain ⟨hanswer, hafter, hhealth⟩ := @send_spec crypto bytes entered endpoint
        rw [← hsender]
        rcases hsent : entered.send (relays crypto) endpoint bytes with
          ⟨failure | value, after, contacts⟩
        · rw [hsent] at hanswer hafter hhealth
          rw [transmitAll_unanswered hanswer.symm, ← hafter]
          have hopen : openAttempts now endpoints
              (entered.recordFailure now endpoint health) =
                openAttempts now endpoints (after.recordFailure now endpoint health) := by
            apply openAttempts_congr
            simp only [TransportManager.recordFailure, TransportManager.setHealth]
            rw [← hhealth]
          rw [hopen]
          exact ih (after.recordFailure now endpoint health)
        · rw [hsent] at hanswer hafter
          rw [transmitAll_answered hanswer.symm, ← hafter]
          rfl

/-- A flush of a single frame sends it until it is answered. -/
theorem flush_network {manager : TransportManager Network} {frame : QueuedFrame}
    (houtbox : manager.outbox = [frame]) :
    (manager.flush (relays crypto) now).2.1.sender =
      (transmitAll crypto frame.bytes
        (openAttempts now manager.sortedEndpoints manager) manager.sender).2 := by
  rw [← tryEndpoints_network (manager.sortedEndpoints.head?.map RelayEndpoint.endpointId)]
  simp only [TransportManager.flush, houtbox, TransportManager.flushLoop,
    TransportManager.deliver]
  rcases TransportManager.tryEndpoints (relays crypto) now frame.bytes
    (manager.sortedEndpoints.head?.map RelayEndpoint.endpointId)
    manager.sortedEndpoints manager with ⟨answer | value, after, contacts⟩ <;> rfl

end Flush

/-! ## A refresh at the server -/

/-- The frame of a refresh: device, token and proof of possession. -/
structure Refresh where
  clientMessageId : Id16
  ttlSeconds : UInt32
  deviceId : Id16
  refreshToken : Id32
  signature : FixedBytes 64

def Refresh.frame (refresh : Refresh) : TransportFrame where
  version := 1
  kind := .authResponse
  clientMessageId := refresh.clientMessageId
  ttlSeconds := refresh.ttlSeconds
  body := refresh.deviceId.toList ++ refresh.refreshToken.toList ++
    refresh.signature.toList

/-- The row of the token, as the server finds it. -/
def Refresh.row (crypto : Crypto) (refresh : Refresh) (db : Database) :
    Option RefreshRow :=
  db.refreshSessions.lookup (tokenHash crypto "refresh" refresh.refreshToken)

def Refresh.rotate (crypto : Crypto) (refresh : Refresh) (moment : Moment)
    (db : Database) : Except ApiError SessionTokens × Database :=
  rotateRefresh crypto moment refresh.deviceId refresh.refreshToken
    refresh.signature db

section Server

variable {crypto : Crypto} {moment : Moment} {bytes : Bytes} {db next : Database}
variable {refresh : Refresh}

theorem authResponse_refresh :
    authResponse crypto moment refresh.frame.body db =
      andThen (refresh.rotate crypto moment db) fun tokens db =>
        (.ok (tokens.accessToken.toList ++ tokens.refreshToken.toList), db) := by
  have hlength : refresh.frame.body.length = 112 := by
    simp [Refresh.frame]
  have hread : decodeWith (do
      let deviceId ← Body.array 16
      let refreshToken ← Body.array 32
      let signature ← Body.array 64
      pure (deviceId, refreshToken, signature) :
        Body (Id16 × Id32 × FixedBytes 64)) refresh.frame.body =
          .ok (refresh.deviceId, refresh.refreshToken, refresh.signature) := by
    apply ByteReader.decodeWith_eq_ok.mpr
    refine ⟨[], ?_⟩
    simp only [ByteReader.bind_eq_ok, ByteReader.pure_eq_ok]
    refine ⟨_, _, ByteReader.array_eq_ok.mpr ?_, _, _, ByteReader.array_eq_ok.mpr rfl,
      _, _, ByteReader.array_eq_ok.mpr (List.append_nil _).symm, rfl⟩
    exact List.append_assoc _ _ _
  unfold authResponse
  dsimp only
  rw [if_neg (by omega), if_pos hlength, hread]
  rfl

theorem dispatch_refresh :
    dispatch crypto moment refresh.frame db =
      andThen (refresh.rotate crypto moment db) fun tokens db =>
        (.ok ⟨1, .authAccepted, refresh.clientMessageId, 0,
          tokens.accessToken.toList ++ tokens.refreshToken.toList⟩, db) := by
  unfold dispatch
  have hroute : route crypto moment refresh.frame =
      some (.authAccepted, authResponse crypto moment refresh.frame.body) := rfl
  rw [hroute]
  dsimp only
  rw [authResponse_refresh]
  rcases refresh.rotate crypto moment db with ⟨failure | tokens, after⟩ <;> rfl

theorem forward_refused (hdecode : TransportFrame.decode bytes = .ok refresh.frame)
    {failure : ApiError}
    (hrotate : refresh.rotate crypto moment db = (.error failure, next)) :
    forward crypto db moment bytes = (none, next) := by
  unfold forward
  rw [hdecode]
  dsimp only
  rw [dispatch_refresh, hrotate]
  rfl

theorem forward_rotated (hdecode : TransportFrame.decode bytes = .ok refresh.frame)
    {tokens : SessionTokens}
    (hrotate : refresh.rotate crypto moment db = (.ok tokens, next)) :
    ∃ value, forward crypto db moment bytes = (some value, next) := by
  have hsmall : TransportFrame.decode (cborResponse ⟨1, .authAccepted,
      refresh.clientMessageId, 0,
      tokens.accessToken.toList ++ tokens.refreshToken.toList⟩) = .ok _ :=
    (decode_cborResponse rfl rfl).mpr (by simp [maxAnswerSize])
  unfold forward
  rw [hdecode]
  dsimp only
  rw [dispatch_refresh, hrotate]
  simp only [andThen, hsmall]
  exact ⟨_, rfl⟩

end Server

/-! ## What the network may do -/

/-- An attempt whose answer is lost is the last one to reach the server. -/
def Safe : List Fate → Bool
  | [] => true
  | .lost :: fates => Safe fates
  | .answered :: _ => true
  | .answerLost :: fates => fates.all fun fate => fate = .lost

/-- No row of the family is revoked that was not revoked before. -/
def KeepsFamily (family : Id16) (db next : Database) : Prop :=
  ∀ hash row, next.refreshSessions.lookup hash = some row →
    row.familyId = family → row.revokedAt.isSome = true →
      ∃ old, db.refreshSessions.lookup hash = some old ∧ old.revokedAt.isSome = true

/-- The token is neither used nor revoked nor expired, the device has signed
it, and the tokens drawn for its successors are new. -/
structure Presentable (crypto : Crypto) (refresh : Refresh) (row : RefreshRow)
    (network : Network) : Prop where
  stored : refresh.row crypto network.db = some row
  owner : row.deviceId = refresh.deviceId
  unused : row.usedAt = none
  unrevoked : row.revokedAt = none
  signed : ∃ device, network.db.devices.lookup refresh.deviceId = some device ∧
    crypto.verifies device.devicePublicKey (refreshProofPayload refresh.refreshToken)
      refresh.signature = true
  unexpired : ∀ attempt ∈ network.pending, attempt.2.now < row.expiresAt
  fresh : ∀ attempt ∈ network.pending,
    network.db.accessSessions.lookup
        (tokenHash crypto "access" attempt.2.firstRandom) = none ∧
      network.db.refreshSessions.lookup
        (tokenHash crypto "refresh" attempt.2.secondRandom) = none

/-- The token has been used, by its own device. -/
structure Spent (crypto : Crypto) (refresh : Refresh) (family : Id16)
    (db : Database) : Prop where
  stored : ∃ row, refresh.row crypto db = some row ∧ row.familyId = family ∧
    row.deviceId = refresh.deviceId ∧
      (row.usedAt.isSome = true ∨ row.revokedAt.isSome = true)
  device : ∃ device, db.devices.lookup refresh.deviceId = some device

/-- The token is revoked. -/
def Revoked (crypto : Crypto) (refresh : Refresh) (family : Id16) (db : Database) :
    Prop :=
  ∃ row, refresh.row crypto db = some row ∧ row.familyId = family ∧
    row.revokedAt.isSome = true

section Refreshing

variable {crypto : Crypto} {refresh : Refresh} {row : RefreshRow} {family : Id16}
variable {network : Network} {bytes : Bytes}

/-- The first attempt that reaches the server rotates the token. -/
theorem rotate_presentable (hpresentable : Presentable crypto refresh row network)
    {attempt : Fate × Moment} (hattempt : attempt ∈ network.pending) :
    ∃ tokens next, refresh.rotate crypto attempt.2 network.db = (.ok tokens, next) := by
  obtain ⟨device, hdevice, hsigned⟩ := hpresentable.signed
  obtain ⟨haccess, hrefresh⟩ := hpresentable.fresh attempt hattempt
  have hexpires := hpresentable.unexpired attempt hattempt
  have hknown : network.db.hasDevice refresh.deviceId = true := by
    rw [Database.hasDevice, hdevice]
    rfl
  obtain ⟨⟨tokens, issued⟩, hissue⟩ :=
    Effects.issueTokens_of_new (some row.familyId) hknown haccess hrefresh
  have hfound : (network.db.refreshSessions.lookup
      (tokenHash crypto "refresh" refresh.refreshToken)).filter
        (fun found => found.deviceId = refresh.deviceId) = some row := by
    rw [Option.filter_eq_some_iff]
    exact ⟨hpresentable.stored, decide_eq_true hpresentable.owner⟩
  unfold Refresh.rotate rotateRefresh
  dsimp only
  rw [hfound, hdevice]
  dsimp only
  rw [if_neg (by simp [hpresentable.unused, hpresentable.unrevoked]),
    if_neg (not_le.mpr hexpires), if_neg (by simp [hsigned])]
  simp only [Transaction.transaction, hissue]
  exact ⟨_, _, rfl⟩

theorem rotate_keeps {moment : Moment} {db next : Database} {tokens : SessionTokens}
    (hrotate : refresh.rotate crypto moment db = (.ok tokens, next)) :
    ∃ row, refresh.row crypto db = some row ∧
      next.devices = db.devices ∧ KeepsFamily family db next ∧
      refresh.row crypto next = some (replaced moment.now
        (tokenHash crypto "refresh" moment.secondRandom) row) := by
  rcases rotateRefresh_cases crypto moment refresh.deviceId refresh.refreshToken
    refresh.signature db with ⟨failure, -, hfailure⟩ | ⟨row, -, hreuse⟩ |
    ⟨row, _, accessSessions, issued, hlookup, hunused, hunrevoked, hinsert, hok⟩
  · rw [Refresh.rotate, hfailure] at hrotate
    cases hrotate
  · rw [Refresh.rotate, hreuse] at hrotate
    cases hrotate
  · rw [Refresh.rotate, hok] at hrotate
    cases hrotate
    have hfree := (Table.insert?_eq_some_iff.mp hinsert).1
    have hother : tokenHash crypto "refresh" refresh.refreshToken ≠
        tokenHash crypto "refresh" moment.secondRandom := by
      intro hsame
      rw [hsame] at hlookup
      exact absurd (hlookup.symm.trans hfree) (by simp)
    have hissued : ∀ key, issued.lookup key =
        if key = tokenHash crypto "refresh" moment.secondRandom then
          some (issuedRow crypto moment row.familyId refresh.deviceId)
        else db.refreshSessions.lookup key := Table.lookup_insert? hinsert
    refine ⟨row, hlookup, rfl, ?_, ?_⟩
    · intro hash found hfound hfamily hrevoked
      dsimp only at hfound
      rw [Table.lookup_modify] at hfound
      by_cases hown : hash = tokenHash crypto "refresh" refresh.refreshToken
      · rw [if_pos hown, hissued, if_neg hother, hlookup] at hfound
        cases hfound
        rw [hown]
        exact ⟨row, hlookup, hrevoked⟩
      · rw [if_neg hown, hissued] at hfound
        split at hfound
        · cases hfound
          cases hrevoked
        · exact ⟨found, hfound, hrevoked⟩
    · unfold Refresh.row
      dsimp only
      rw [Table.lookup_modify, if_pos rfl, hissued, if_neg hother, hlookup]
      rfl

/-- A token that was used is taken for stolen. -/
theorem rotate_spent {moment : Moment} {db : Database}
    (hspent : Spent crypto refresh family db) :
    ∃ failure next, refresh.rotate crypto moment db = (.error failure, next) ∧
      Spent crypto refresh family next ∧ Revoked crypto refresh family next := by
  obtain ⟨row, hstored, hfamily, howner, hused⟩ := hspent.stored
  obtain ⟨device, hdevice⟩ := hspent.device
  have hfound : (db.refreshSessions.lookup
      (tokenHash crypto "refresh" refresh.refreshToken)).filter
        (fun found => found.deviceId = refresh.deviceId) = some row := by
    rw [Option.filter_eq_some_iff]
    exact ⟨hstored, decide_eq_true howner⟩
  have hrotate : refresh.rotate crypto moment db =
      (.error .tokenReuse, revokeFamily moment.now row.familyId db) := by
    unfold Refresh.rotate rotateRefresh
    dsimp only
    rw [hfound, hdevice]
    dsimp only
    rw [if_pos hused]
  have hrow : refresh.row crypto (revokeFamily moment.now row.familyId db) =
      some (revoke moment.now row) := by
    unfold Refresh.row at hstored ⊢
    unfold revokeFamily
    dsimp only
    rw [Table.lookup_update, hstored]
    simp [revoke]
  refine ⟨_, _, hrotate, ⟨⟨_, hrow, hfamily, howner, .inr rfl⟩, device, hdevice⟩, _,
    hrow, hfamily, rfl⟩

theorem revoked_not_kept {db next : Database} (hstored : refresh.row crypto db = some row)
    (hunrevoked : row.revokedAt = none) (hrevoked : Revoked crypto refresh family next) :
    ¬KeepsFamily family db next := by
  intro hkeeps
  obtain ⟨found, hfound, hfamily, hsome⟩ := hrevoked
  obtain ⟨old, hold, hbefore⟩ := hkeeps _ found hfound hfamily hsome
  unfold Refresh.row at hstored
  rw [hstored] at hold
  cases hold
  rw [hunrevoked] at hbefore
  cases hbefore

/-! ## Attempts one after the other -/

theorem transmit_idle (hpending : network.pending = []) :
    transmit crypto network bytes = (.error .unavailable, network) := by
  unfold transmit
  rw [hpending]

theorem transmit_lost {moment : Moment} {pending : List (Fate × Moment)}
    (hpending : network.pending = (.lost, moment) :: pending) :
    transmit crypto network bytes = (.error .unavailable, ⟨network.db, pending⟩) := by
  unfold transmit
  rw [hpending]

/-- Every attempt with a spent token that reaches the server revokes its
family. -/
theorem transmit_spent (hdecode : TransportFrame.decode bytes = .ok refresh.frame)
    (hspent : Spent crypto refresh family network.db) {fate : Fate}
    {moment : Moment} {pending : List (Fate × Moment)}
    (hpending : network.pending = (fate, moment) :: pending) (hreaches : fate ≠ .lost) :
    ∃ db, transmit crypto network bytes = (.error .unavailable, ⟨db, pending⟩) ∧
      Spent crypto refresh family db ∧ Revoked crypto refresh family db := by
  obtain ⟨failure, next, hrotate, hstill, hrevoked⟩ := @rotate_spent crypto refresh
    family moment network.db hspent
  have hforward := forward_refused hdecode hrotate
  refine ⟨next, ?_, hstill, hrevoked⟩
  unfold transmit
  rw [hpending]
  cases fate with
  | lost => exact absurd rfl hreaches
  | answerLost => simp only [hforward]
  | answered => simp only [hforward]

theorem revoked_transmitAll (hdecode : TransportFrame.decode bytes = .ok refresh.frame)
    (attempts : ℕ) (hspent : Spent crypto refresh family network.db)
    (hrevoked : Revoked crypto refresh family network.db) :
    Revoked crypto refresh family (transmitAll crypto bytes attempts network).2.db := by
  induction attempts generalizing network with
  | zero => exact hrevoked
  | succ attempts ih =>
      cases hpending : network.pending with
      | nil =>
          simp only [transmitAll, transmit_idle hpending]
          exact ih hspent hrevoked
      | cons attempt pending =>
          obtain ⟨fate, moment⟩ := attempt
          by_cases hlost : fate = .lost
          · subst hlost
            simp only [transmitAll, transmit_lost hpending]
            exact ih hspent hrevoked
          · obtain ⟨db, htransmit, hstill, hnow⟩ :=
              transmit_spent hdecode hspent hpending hlost
            simp only [transmitAll, htransmit]
            exact ih hstill hnow

/-- The fates of the next attempts. -/
def upcoming (network : Network) (attempts : ℕ) : List Fate :=
  (network.pending.take attempts).map Prod.fst

theorem upcoming_idle (hpending : network.pending = []) (attempts : ℕ) :
    upcoming network attempts = [] := by
  rw [upcoming, hpending, List.take_nil, List.map_nil]

theorem upcoming_succ {fate : Fate} {moment : Moment}
    {pending : List (Fate × Moment)}
    (hpending : network.pending = (fate, moment) :: pending) (db : Database)
    (attempts : ℕ) :
    upcoming network (attempts + 1) = fate :: upcoming ⟨db, pending⟩ attempts := by
  rw [upcoming, hpending, List.take_succ_cons, List.map_cons]
  rfl

/-- As long as nothing reaches it, the server does nothing. -/
theorem spent_transmitAll (hdecode : TransportFrame.decode bytes = .ok refresh.frame)
    (attempts : ℕ) (hspent : Spent crypto refresh family network.db) :
    if (upcoming network attempts).all fun fate => fate = .lost then
      (transmitAll crypto bytes attempts network).2.db = network.db
    else Revoked crypto refresh family
      (transmitAll crypto bytes attempts network).2.db := by
  induction attempts generalizing network with
  | zero => rfl
  | succ attempts ih =>
      cases hpending : network.pending with
      | nil =>
          simp only [transmitAll, transmit_idle hpending, upcoming_idle hpending]
          have hidle := ih hspent
          simpa only [upcoming_idle hpending] using hidle
      | cons attempt pending =>
          obtain ⟨fate, moment⟩ := attempt
          rw [upcoming_succ hpending network.db]
          by_cases hlost : fate = .lost
          · subst hlost
            simp only [transmitAll, transmit_lost hpending]
            simpa using @ih ⟨network.db, pending⟩ hspent
          · obtain ⟨db, htransmit, hstill, hnow⟩ :=
              transmit_spent hdecode hspent hpending hlost
            rw [if_neg (by simp [hlost])]
            simp only [transmitAll, htransmit]
            exact revoked_transmitAll hdecode attempts hstill hnow

theorem keepsFamily_refl (db : Database) : KeepsFamily family db db :=
  fun _ row hfound _ hrevoked => ⟨row, hfound, hrevoked⟩

theorem Presentable.tail (hpresentable : Presentable crypto refresh row network)
    {attempt : Fate × Moment} {pending : List (Fate × Moment)}
    (hpending : network.pending = attempt :: pending) :
    Presentable crypto refresh row ⟨network.db, pending⟩ where
  stored := hpresentable.stored
  owner := hpresentable.owner
  unused := hpresentable.unused
  unrevoked := hpresentable.unrevoked
  signed := hpresentable.signed
  unexpired := by
    intro other hother
    apply hpresentable.unexpired
    rw [hpending]
    exact List.mem_cons_of_mem attempt hother
  fresh := by
    intro other hother
    apply hpresentable.fresh
    rw [hpending]
    exact List.mem_cons_of_mem attempt hother

theorem transmitAll_keeps_iff
    (hdecode : TransportFrame.decode bytes = .ok refresh.frame) (attempts : ℕ)
    (hpresentable : Presentable crypto refresh row network) :
    KeepsFamily row.familyId network.db
        (transmitAll crypto bytes attempts network).2.db ↔
      Safe (upcoming network attempts) = true := by
  induction attempts generalizing network with
  | zero => exact iff_of_true (keepsFamily_refl network.db) rfl
  | succ attempts ih =>
      cases hpending : network.pending with
      | nil =>
          simp only [transmitAll, transmit_idle hpending, upcoming_idle hpending]
          have hidle := ih hpresentable
          simpa only [upcoming_idle hpending] using hidle
      | cons attempt pending =>
          have hattempt : attempt ∈ network.pending := by
            rw [hpending]
            exact List.mem_cons_self
          obtain ⟨tokens, next, hrotate⟩ := rotate_presentable hpresentable hattempt
          obtain ⟨found, hfound, hdevices, hkeeps, hreplaced⟩ :=
            @rotate_keeps crypto refresh row.familyId _ _ _ _ hrotate
          obtain ⟨value, hforward⟩ := forward_rotated hdecode hrotate
          obtain ⟨fate, moment⟩ := attempt
          have hsame : found = row :=
            Option.some.inj (hfound.symm.trans hpresentable.stored)
          subst hsame
          rw [upcoming_succ hpending next]
          cases fate with
          | lost =>
              simp only [transmitAll, transmit_lost hpending, Safe]
              exact ih (hpresentable.tail hpending)
          | answered =>
              have htransmit : transmit crypto network bytes =
                  (.ok value, ⟨next, pending⟩) := by
                unfold transmit
                rw [hpending]
                simp only [hforward]
              simp only [transmitAll, htransmit, Safe, iff_true]
              exact hkeeps
          | answerLost =>
              have htransmit : transmit crypto network bytes =
                  (.error .unavailable, ⟨next, pending⟩) := by
                unfold transmit
                rw [hpending]
                simp only [hforward]
              have hspent : Spent crypto refresh found.familyId next := by
                obtain ⟨device, hdevice, -⟩ := hpresentable.signed
                exact ⟨⟨_, hreplaced, rfl, hpresentable.owner, .inl rfl⟩, device,
                  by rw [hdevices]; exact hdevice⟩
              have hlater := @spent_transmitAll crypto refresh found.familyId
                ⟨next, pending⟩ bytes hdecode attempts hspent
              simp only [transmitAll, htransmit, Safe]
              split at hlater
              case isTrue hall =>
                rw [hlater]
                exact iff_of_true hkeeps hall
              case isFalse hreaches =>
                exact iff_of_false (revoked_not_kept hpresentable.stored
                  hpresentable.unrevoked hlater) hreaches

end Refreshing

/-- A flush of a single refresh with a token in order keeps its family exactly
when no attempt follows to the server after one whose answer was lost. -/
theorem family_kept_iff (crypto : Crypto) (refresh : Refresh) (row : RefreshRow)
    (bytes : Bytes) (now : UInt64) (manager : TransportManager Network)
    (hencode : refresh.frame.encode = .ok bytes)
    (houtbox : manager.outbox = [⟨refresh.clientMessageId, bytes⟩])
    (hpresentable : Presentable crypto refresh row manager.sender) :
    KeepsFamily row.familyId manager.sender.db
        (manager.flush (relays crypto) now).2.1.sender.db ↔
      Safe (upcoming manager.sender
        (openAttempts now manager.sortedEndpoints manager)) = true := by
  have hdecode : TransportFrame.decode bytes = .ok refresh.frame :=
    frame_decode_eq_ok.mpr ⟨rfl, hencode⟩
  rw [flush_network houtbox]
  exact transmitAll_keeps_iff hdecode _ hpresentable

/-- The all-zero token of a device with the neutral key. -/
def sampleRefresh : Refresh where
  clientMessageId := FixedBytes.fill 16 9
  ttlSeconds := 60
  deviceId := FixedBytes.fill 16 3
  refreshToken := FixedBytes.fill 32 0
  signature := SignatureScheme.neutralSignature

def sampleRow : RefreshRow where
  tokenHash := Redelivery.zeroRefreshHash
  familyId := FixedBytes.fill 16 6
  deviceId := FixedBytes.fill 16 3
  replacedByHash := none
  expiresAt := 2592000000000
  usedAt := none
  revokedAt := none

/-- The server that has issued the token. -/
def refreshServer : Database :=
  { rotationServer with
    refreshSessions := ⟨[sampleRow], List.nodup_singleton _⟩ }

def sampleNetwork (pending : List (Fate × Moment)) : Network where
  db := refreshServer
  pending

/-- Two relays and the refresh in the queue. -/
def refreshing (pending : List (Fate × Moment)) : TransportManager Network where
  sender := sampleNetwork pending
  directory := Outbox.sampleDirectory
  verificationKey := SignatureScheme.neutralKey
  outbox := [⟨FixedBytes.fill 16 9, sampleRefresh.frame.items⟩]
  health := Table.empty
  counters := ⟨0, 0, 0, 0, 0, 0⟩
  preferredEndpoint := none

theorem row_refreshServer :
    sampleRefresh.row rotationCrypto refreshServer = some sampleRow := by
  decide +kernel

theorem sampleNetwork_presentable {pending : List (Fate × Moment)}
    (hpending : ∀ attempt ∈ pending, attempt.2 = rotationMoment 1) :
    Presentable rotationCrypto sampleRefresh sampleRow (sampleNetwork pending) := by
  have hdevice : refreshServer.devices.lookup sampleRefresh.deviceId =
      some ⟨FixedBytes.fill 16 3, FixedBytes.fill 32 2, SignatureScheme.neutralKey,
        none⟩ := by decide +kernel
  have hfresh : refreshServer.accessSessions.lookup
        (tokenHash rotationCrypto "access" (rotationMoment 1).firstRandom) = none ∧
      refreshServer.refreshSessions.lookup
        (tokenHash rotationCrypto "refresh" (rotationMoment 1).secondRandom) = none := by
    decide +kernel
  refine ⟨row_refreshServer, rfl, rfl, rfl, ⟨_, hdevice, by decide +kernel⟩, ?_, ?_⟩
  · intro attempt hattempt
    rw [hpending attempt hattempt]
    decide
  · intro attempt hattempt
    rw [hpending attempt hattempt]
    exact hfresh

/-- The first answer is lost and the second attempt reaches the server, which
takes the token for stolen. -/
theorem lost_answer_revokes_family :
    Presentable rotationCrypto sampleRefresh sampleRow (sampleNetwork
        [(.answerLost, rotationMoment 1), (.answered, rotationMoment 1)]) ∧
      ¬KeepsFamily sampleRow.familyId refreshServer
        ((refreshing [(.answerLost, rotationMoment 1),
          (.answered, rotationMoment 1)]).flush (relays rotationCrypto)
            1000).2.1.sender.db := by
  refine ⟨sampleNetwork_presentable (by simp), ?_⟩
  have hrow : sampleRefresh.row rotationCrypto
      ((refreshing [(.answerLost, rotationMoment 1),
        (.answered, rotationMoment 1)]).flush (relays rotationCrypto)
          1000).2.1.sender.db =
      some { sampleRow with
        replacedByHash := some onesRefreshHash
        usedAt := some 0
        revokedAt := some 0 } := by decide +kernel
  exact revoked_not_kept row_refreshServer rfl ⟨_, hrow, rfl, rfl⟩

/-- A refresh that is lost once and then answered keeps its family. -/
theorem answered_refresh_keeps_family :
    KeepsFamily sampleRow.familyId refreshServer
      ((refreshing [(.lost, rotationMoment 1), (.answered, rotationMoment 1)]).flush
        (relays rotationCrypto) 1000).2.1.sender.db :=
  (family_kept_iff rotationCrypto sampleRefresh sampleRow _ 1000
    (refreshing [(.lost, rotationMoment 1), (.answered, rotationMoment 1)])
    (by decide +kernel) rfl (sampleNetwork_presentable (by simp))).mpr
    (by decide +kernel)

end ResilientMessenger.LostAnswers
