import ResilientMessenger.Server.StoredUploads
import ResilientMessenger.Store.Rotations

/-!
# The payloads of pending uploads

`get_pending_uploads` hands the stored body of a message to the uploader, and
the server takes a second upload under the same client message id for a
repetition only if its ciphertext is the first one byte by byte.  Every call but
one leaves the bodies of pending messages alone.  `rotate_master_key` encrypts
all of them anew, so an upload whose answer was lost before a rotation is refused
after it.
-/

namespace ResilientMessenger.PendingUploads

open ResilientMessenger.ByteCodec
open ResilientMessenger.LocalDatabase
open ResilientMessenger.StoreOperations
open ResilientMessenger.Transaction
open ResilientMessenger.Runs
open ResilientMessenger.Durability
open ResilientMessenger.KeyRotation (decrypt_other_key decrypt_same_key encrypt_eq_ok
  reencrypt_row rotateMasterKey_cases)
open ResilientMessenger.Rotations
open ResilientMessenger.StoredUploads
open ResilientMessenger.Backend (UploadedEvent uploadEvent)
open ResilientMessenger.Acknowledgements (opened sampleKey sampleId)

/-! ## Fetching -/

structure PendingUpload where
  clientMessageId : Id16
  conversationId : Id16
  encryptedPayload : Bytes
  attempts : ℕ
  deriving DecidableEq

/-- `outbox JOIN messages USING(client_message_id) WHERE next_attempt_at_ms<=?1`. -/
def dueRows (now : ℤ) (db : Database) : List (OutboxRow × MessageRow) :=
  (db.outbox.rows.filter fun queued => queued.nextAttemptAtMs ≤ now).filterMap
    fun queued => (db.messages.lookup queued.clientMessageId).map (queued, ·)

/-- `ORDER BY o.next_attempt_at_ms LIMIT ?2`, with the limit capped. -/
def pendingRows (now : ℤ) (limit : ℕ) (db : Database) :
    List (OutboxRow × MessageRow) :=
  ((dueRows now db).insertionSort fun left right =>
    left.1.nextAttemptAtMs ≤ right.1.nextAttemptAtMs).take (min limit 50)

/-- Reading `attempts` as a `u32` fails on a larger stored value. -/
def pendingUpload (row : OutboxRow × MessageRow) : Except CoreError PendingUpload :=
  if 2 ^ 32 ≤ row.1.attempts then .error .database
  else .ok
    { clientMessageId := row.2.clientMessageId
      conversationId := row.2.conversationId
      encryptedPayload := row.2.bodyCiphertext
      attempts := row.1.attempts }

def getPendingUploads (now : ℤ) (limit : ℕ) (db : Database) :
    Except CoreError (List PendingUpload) :=
  (pendingRows now limit db).mapM pendingUpload

/-- Some call would return the message with the payload. -/
def Fetched (id : Id16) (payload : Bytes) (core : MessengerCore) : Prop :=
  ∃ now limit uploads, getPendingUploads now limit core.db = .ok uploads ∧
    ∃ upload ∈ uploads, upload.clientMessageId = id ∧
      upload.encryptedPayload = payload

/-- The stored body of the message. -/
def payloadOf (id : Id16) (core : MessengerCore) : Option Bytes :=
  (core.db.messages.lookup id).map MessageRow.bodyCiphertext

theorem row_of_mapM {α β ε : Type} {f : α → Except ε β} {rows : List α}
    {entries : List β} (hentries : rows.mapM f = .ok entries) {entry : β}
    (hentry : entry ∈ entries) : ∃ row ∈ rows, f row = .ok entry := by
  induction rows generalizing entries with
  | nil =>
      cases hentries
      cases hentry
  | cons row rows ih =>
      rw [List.mapM_cons] at hentries
      simp only [bind_eq_ok, pure_eq_ok] at hentries
      obtain ⟨first, hfirst, rest, hrest, rfl⟩ := hentries
      rcases List.mem_cons.mp hentry with rfl | hlater
      · exact ⟨row, List.mem_cons_self, hfirst⟩
      · obtain ⟨found, hfound, hread⟩ := ih hrest hlater
        exact ⟨found, List.mem_cons_of_mem row hfound, hread⟩

/-- What is fetched is the stored body. -/
theorem payloadOf_of_fetched {id : Id16} {payload : Bytes} {core : MessengerCore}
    (hfetched : Fetched id payload core) : payloadOf id core = some payload := by
  obtain ⟨now, limit, uploads, huploads, upload, hupload, rfl, rfl⟩ := hfetched
  obtain ⟨row, hrow, hread⟩ := row_of_mapM huploads hupload
  have hdue : row ∈ dueRows now core.db :=
    (List.mem_insertionSort _).mp (List.mem_of_mem_take hrow)
  obtain ⟨queued, -, hjoined⟩ := List.mem_filterMap.mp hdue
  obtain ⟨message, hlookup, rfl⟩ := Option.map_eq_some_iff.mp hjoined
  unfold pendingUpload at hread
  split at hread
  · cases hread
  · cases hread
    dsimp only
    rw [payloadOf, Table.key_of_lookup hlookup, hlookup, Option.map_some]

/-! ## Rotations -/

/-- A rotation goes through when the key and the version are right and every
body can be opened and sealed again. -/
def GoesThrough (aead : Aead) (nonces : Id16 → Nonce) (newKey : Bytes)
    (newVersion : UInt32) (core : MessengerCore) : Prop :=
  ∃ replacement, FixedBytes.ofBytes? 32 newKey = some replacement ∧
    (newVersion.toNat : ℤ) = core.db.keyVersion + 1 ∧
    ∀ row ∈ core.db.messages.rows, ∃ plaintext body,
      decrypt aead core.masterKey row.bodyCiphertext = .ok plaintext ∧
      encrypt aead replacement (nonces row.clientMessageId) plaintext = .ok body

section Rotating

variable {aead : Aead} {nonces : Id16 → Nonce} {newKey : Bytes}
variable {newVersion : UInt32} {core : MessengerCore}

theorem reencrypt_succeeds {active replacement : Key} {rows : List MessageRow}
    (hall : ∀ row ∈ rows, ∃ plaintext body,
      decrypt aead active row.bodyCiphertext = .ok plaintext ∧
      encrypt aead replacement (nonces row.clientMessageId) plaintext = .ok body)
    (db : Database) :
    ∃ result, reencrypt aead active replacement nonces rows db = .ok result := by
  induction rows generalizing db with
  | nil => exact ⟨db, rfl⟩
  | cons row rows ih =>
      obtain ⟨plaintext, body, hdecrypt, hencrypt⟩ := hall row List.mem_cons_self
      obtain ⟨result, hresult⟩ := ih
        (fun other hother => hall other (List.mem_cons_of_mem row hother))
        (db.setBody row.clientMessageId body)
      refine ⟨result, ?_⟩
      simp only [reencrypt, bind_eq_ok]
      exact ⟨plaintext, hdecrypt, body, hencrypt, hresult⟩

theorem rotateMasterKey_ok_iff :
    (rotateMasterKey aead nonces newKey newVersion core).1 = .ok () ↔
      GoesThrough aead nonces newKey newVersion core := by
  constructor
  · intro hok
    obtain ⟨replacement, reencrypted, hkey, hversion, hloop, -⟩ :=
      rotateMasterKey_eq_ok hok
    refine ⟨replacement, hkey, hversion, ?_⟩
    intro row hrow
    obtain ⟨plaintext, body, hdecrypt, hencrypt, -⟩ :=
      reencrypt_row hloop core.db.messages.nodup hrow (Table.mem_rows_iff.mp hrow)
    exact ⟨plaintext, body, hdecrypt, hencrypt⟩
  · rintro ⟨replacement, hkey, hversion, hall⟩
    obtain ⟨reencrypted, hloop⟩ := reencrypt_succeeds hall core.db
    simp only [rotateMasterKey, hkey, transaction, if_neg (not_not.mpr hversion), hloop]
    rfl

end Rotating

/-- The step is no rotation that goes through, or one that keeps the key and
happens to draw the nonce the message has. -/
def KeepsPayload (aead : Aead) (id : Id16) (core : MessengerCore) : Label → Prop
  | .call (.rotateMasterKey nonces newKey newVersion) =>
      GoesThrough aead nonces newKey newVersion core →
        newKey = core.masterKey.toList ∧
          ∃ rest, payloadOf id core = some ((nonces id).toList ++ rest)
  | _ => True

/-! ## Every body is sealed under the active key -/

def SealedBody (aead : Aead) (core : MessengerCore) (id : Id16) : Prop :=
  ∀ payload, payloadOf id core = some payload →
    ∃ nonce plaintext, encrypt aead core.masterKey nonce plaintext = .ok payload

section Sealing

variable {aead : Aead} {id : Id16} {core next : MessengerCore}
  {operation : Operation}

theorem payloadOf_restatused
    (hrow : Restatused (core.db.messages.lookup id) (next.db.messages.lookup id)) :
    payloadOf id next = payloadOf id core := by
  unfold payloadOf
  rcases hrow with hsame | ⟨status, hstatus⟩
  · rw [hsame]
  · rw [hstatus, Option.map_map]
    rfl

theorem sealedBody_of_rowMoves (hmoves : RowMoves aead id core next operation)
    (hsealed : SealedBody aead core id) : SealedBody aead next id := by
  intro payload hpayload
  cases hmoves with
  | restatused hkey hrow =>
      rw [hkey]
      rw [payloadOf_restatused hrow] at hpayload
      exact hsealed payload hpayload
  | created hkey hfree hencrypt hrow =>
      rw [payloadOf, hrow] at hpayload
      cases hpayload
      rw [hkey]
      exact ⟨_, _, hencrypt⟩
  | rotated hlookup hdecrypt hencrypt hrow =>
      rw [payloadOf, hrow] at hpayload
      cases hpayload
      exact ⟨_, _, hencrypt⟩
  | missing hbefore hafter =>
      rw [payloadOf, hafter] at hpayload
      cases hpayload
  | wiped hrow =>
      rw [payloadOf, hrow] at hpayload
      cases hpayload

theorem sealedBody_step (hsealed : SealedBody aead core id) (label : Label) :
    SealedBody aead (Durability.step aead core label) id := by
  cases label with
  | call operation =>
      exact sealedBody_of_rowMoves (step_rowMoves aead core operation id) hsealed
  | reopen =>
      rw [step_reopen]
      exact hsealed

theorem sealedBody_run (key : Key) (labels : List Label) :
    SealedBody aead (run (Durability.step aead) (opened key) labels) id := by
  apply run_invariant (P := fun core => SealedBody aead core id)
    (fun core label hsealed => sealedBody_step hsealed label)
  intro payload hpayload
  cases hpayload

end Sealing

/-! ## One step -/

section Steps

variable {aead : Aead} {id : Id16} {core : MessengerCore} {payload : Bytes}

/-- A rotation that goes through keeps a body exactly when it seals it under the
same key and nonce. -/
theorem payload_rotated_iff (hcorrect : aead.Correct)
    (hsealed : SealedBody aead core id) (hpayload : payloadOf id core = some payload)
    (nonces : Id16 → Nonce) (newKey : Bytes) (newVersion : UInt32) :
    payloadOf id (rotateMasterKey aead nonces newKey newVersion core).2 =
        some payload ↔
      KeepsPayload aead id core
        (.call (.rotateMasterKey nonces newKey newVersion)) := by
  obtain ⟨row, hlookup, rfl⟩ := Option.map_eq_some_iff.mp hpayload
  obtain ⟨old, sealedText, hold⟩ := hsealed _ hpayload
  dsimp only [KeepsPayload]
  rw [← rotateMasterKey_ok_iff, hpayload]
  rcases rotateMasterKey_cases aead nonces newKey newVersion core with
    ⟨failure, hfailure⟩ | ⟨hok, hrows⟩
  · simp [hfailure, hpayload]
  rcases hrows id with ⟨hmissing, -⟩ |
    ⟨found, plaintext, body, hfound, hdecrypt, hencrypt, hrow⟩
  · rw [hlookup] at hmissing
    cases hmissing
  rw [hlookup] at hfound
  cases hfound
  obtain ⟨replacement, -, hkey, -, -, hactive⟩ := rotateMasterKey_eq_ok hok
  have hnew : newKey = replacement.toList := (FixedBytes.ofBytes?_eq_some.mp hkey).symm
  rw [hactive] at hencrypt
  have hafter : payloadOf id (rotateMasterKey aead nonces newKey newVersion core).2 =
      some body := by
    rw [payloadOf, hrow, Option.map_some]
  rw [hafter, Option.some.injEq]
  constructor
  · rintro rfl -
    constructor
    · rw [hnew]
      by_contra hother
      have hne : replacement ≠ core.masterKey := fun heq => hother (heq ▸ rfl)
      have hrefused := decrypt_other_key hcorrect hne hold
      rw [decrypt_same_key hcorrect hencrypt] at hrefused
      cases hrefused
    · obtain ⟨ciphertext, -, hbody⟩ := encrypt_eq_ok hencrypt
      exact ⟨ciphertext, congrArg some hbody⟩
  · intro hsame
    obtain ⟨hkeys, rest, hnonce⟩ := hsame hok
    have hreplacement : replacement = core.masterKey :=
      List.Vector.eq _ _ (hnew.symm.trans hkeys)
    obtain ⟨ciphertext, -, hbody⟩ := encrypt_eq_ok hold
    rw [hbody, Option.some.injEq] at hnonce
    have hnonces : old = nonces id := List.Vector.eq _ _
      (List.append_inj_left hnonce (by rw [old.toList_length, (nonces id).toList_length]))
    rw [decrypt_same_key hcorrect hold] at hdecrypt
    cases hdecrypt
    rw [hreplacement, ← hnonces, hold] at hencrypt
    cases hencrypt
    rfl

/-- The other calls, short of a wipe, leave the body alone. -/
theorem payload_of_rowMoves {next : MessengerCore} {operation : Operation}
    (hmoves : RowMoves aead id core next operation)
    (hunwiped : operation ≠ .wipeLocalAccount)
    (hunrotated : ∀ nonces newKey newVersion,
      operation ≠ .rotateMasterKey nonces newKey newVersion)
    (hpayload : payloadOf id core = some payload) :
    payloadOf id next = some payload := by
  cases hmoves with
  | restatused hkey hrow => rw [payloadOf_restatused hrow, hpayload]
  | created hkey hfree hencrypt hrow =>
      rw [payloadOf, hfree] at hpayload
      cases hpayload
  | rotated hlookup hdecrypt hencrypt hrow => exact absurd rfl (hunrotated _ _ _)
  | missing hbefore hafter =>
      rw [payloadOf, hbefore] at hpayload
      cases hpayload
  | wiped hrow => exact absurd rfl hunwiped

theorem keepsPayload_of_unrotated {operation : Operation}
    (hunrotated : ∀ nonces newKey newVersion,
      operation ≠ .rotateMasterKey nonces newKey newVersion) :
    KeepsPayload aead id core (.call operation) := by
  unfold KeepsPayload
  split
  case h_1 nonces newKey newVersion hrotation =>
    cases hrotation
    exact absurd rfl (hunrotated nonces newKey newVersion)
  case h_2 => trivial

/-- One step keeps the payload of a message exactly when it is no rotation that
seals it anew. -/
theorem payload_step_iff (hcorrect : aead.Correct) {label : Label}
    (hunwiped : label ≠ .call .wipeLocalAccount) (hsealed : SealedBody aead core id)
    (hpayload : payloadOf id core = some payload) :
    payloadOf id (Durability.step aead core label) = some payload ↔
      KeepsPayload aead id core label := by
  cases label with
  | reopen =>
      rw [step_reopen]
      exact iff_of_true hpayload trivial
  | call operation =>
      by_cases hrotation : ∃ nonces newKey newVersion,
          operation = .rotateMasterKey nonces newKey newVersion
      · obtain ⟨nonces, newKey, newVersion, rfl⟩ := hrotation
        exact payload_rotated_iff hcorrect hsealed hpayload nonces newKey newVersion
      · have hunrotated : ∀ nonces newKey newVersion,
            operation ≠ .rotateMasterKey nonces newKey newVersion :=
          fun nonces newKey newVersion heq =>
            hrotation ⟨nonces, newKey, newVersion, heq⟩
        have hwiped : operation ≠ .wipeLocalAccount := fun heq =>
          hunwiped (congrArg Label.call heq)
        exact iff_of_true (payload_of_rowMoves (step_rowMoves aead core operation id)
          hwiped hunrotated hpayload) (keepsPayload_of_unrotated hunrotated)

theorem unwiped_of_unsettled {label : Label}
    (hunsettled : Unsettled aead id core label) :
    label ≠ .call .wipeLocalAccount := by
  rintro rfl
  exact hunsettled.1 rfl

theorem payload_run (hcorrect : aead.Correct) {labels : List Label}
    (hpending : Guarded (Durability.step aead) (Unsettled aead id) core labels)
    (hkeeps : Guarded (Durability.step aead) (KeepsPayload aead id) core labels)
    (hsealed : SealedBody aead core id) (hpayload : payloadOf id core = some payload) :
    payloadOf id (run (Durability.step aead) core labels) = some payload := by
  induction labels generalizing core with
  | nil => exact hpayload
  | cons label labels ih =>
      have hkept := (payload_step_iff hcorrect (unwiped_of_unsettled hpending.1) hsealed
        hpayload).mpr hkeeps.1
      exact ih hpending.2 hkeeps.2 (sealedBody_step hsealed label) hkept

end Steps

/-! ## Whole runs -/

/-- Where the server has stored an event with the first payload, it takes the
same event with the second for a repetition. -/
def TakenForRepetition (payload again : Bytes) : Prop :=
  ∀ (now : Schema.Time) (event : UploadedEvent) (server : Schema.Database)
    (row : Schema.EventRow), EventAdmitted { event with ciphertext := again } server →
    earlierRow event server = some row → row.eventId = event.eventId →
    row.ciphertext = payload →
      uploadEvent now { event with ciphertext := again } server =
        (.ok ⟨row.eventCursor, true⟩, server)

/-- While a message is neither accepted nor cancelled nor wiped, and no rotation
seals its body anew, every fetch returns the same payload, and the server
recognises an upload of it that is repeated. -/
theorem pending_payload_kept (aead : Aead) (hcorrect : aead.Correct) (key : Key)
    (earlier later : List Label) (id : Id16)
    (hpending : Guarded (Durability.step aead) (Unsettled aead id)
      (run (Durability.step aead) (opened key) earlier) later)
    (hkeeps : Guarded (Durability.step aead) (KeepsPayload aead id)
      (run (Durability.step aead) (opened key) earlier) later)
    (payload again : Bytes)
    (hfirst : Fetched id payload (run (Durability.step aead) (opened key) earlier))
    (hagain : Fetched id again
      (run (Durability.step aead) (opened key) (earlier ++ later))) :
    again = payload ∧ TakenForRepetition payload again := by
  rw [run_append] at hagain
  have hkept := payload_run hcorrect hpending hkeeps (sealedBody_run key earlier)
    (payloadOf_of_fetched hfirst)
  rw [payloadOf_of_fetched hagain, Option.some.injEq] at hkept
  refine ⟨hkept, ?_⟩
  intro now event server row hadmitted hrow hid hciphertext
  exact uploadEvent_repeated now hadmitted hrow hid (hciphertext.trans hkept.symm)

/-- A message, and what the uploader is given for it. -/
def created : List Label :=
  [.call (.createMessage sampleId (FixedBytes.fill 24 3) 0 (FixedBytes.fill 16 5) "OK")]

def firstPayload : Bytes :=
  List.replicate 24 3 ++ sampleKey.toList ++ utf8 "OK"

theorem fetched_after_creation :
    Fetched sampleId firstPayload
      (run (Durability.step Aead.transparent) (opened sampleKey) created) :=
  ⟨0, 50, [⟨sampleId, FixedBytes.fill 16 5, firstPayload, 0⟩], by decide +kernel, _,
    List.mem_cons_self, rfl, rfl⟩

theorem payload_kept_over_retry :
    Fetched sampleId firstPayload (run (Durability.step Aead.transparent)
        (opened sampleKey) (created ++ [.call (.retryMessage 1 sampleId), .reopen])) ∧
      TakenForRepetition firstPayload firstPayload := by
  have hagain : Fetched sampleId firstPayload (run (Durability.step Aead.transparent)
      (opened sampleKey) (created ++ [.call (.retryMessage 1 sampleId), .reopen])) :=
    ⟨2000, 50, [⟨sampleId, FixedBytes.fill 16 5, firstPayload, 1⟩], by decide +kernel,
      _, List.mem_cons_self, rfl, rfl⟩
  refine ⟨hagain, (pending_payload_kept Aead.transparent Aead.transparent_correct
    sampleKey created [.call (.retryMessage 1 sampleId), .reopen] sampleId ?_
    ⟨trivial, trivial, trivial⟩ firstPayload firstPayload fetched_after_creation
    hagain).2⟩
  refine ⟨⟨?_, ?_⟩, trivial, trivial⟩
  all_goals simp

/-- The key is rotated while the message waits. -/
def rotated : List Label :=
  [.call (.rotateMasterKey (fun _ => FixedBytes.fill 24 8) (List.replicate 32 7) 2)]

def rotatedPayload : Bytes :=
  List.replicate 24 8 ++ List.replicate 32 7 ++ utf8 "OK"

/-- The upload of the message for the sample group. -/
def uploadOf (payload : Bytes) : UploadedEvent where
  eventId := FixedBytes.fill 16 6
  groupId := FixedBytes.fill 16 5
  authorDeviceId := FixedBytes.fill 16 3
  clientMessageId := sampleId
  eventKind := 1
  ciphertext := payload
  correlationId := none

/-- After the rotation another payload is fetched, and a server that has stored
the first one refuses it. -/
theorem rotated_payload_refused :
    Guarded (Durability.step Aead.transparent) (Unsettled Aead.transparent sampleId)
        (run (Durability.step Aead.transparent) (opened sampleKey) created) rotated ∧
      Fetched sampleId firstPayload
        (run (Durability.step Aead.transparent) (opened sampleKey) created) ∧
      Fetched sampleId rotatedPayload (run (Durability.step Aead.transparent)
        (opened sampleKey) (created ++ rotated)) ∧
      rotatedPayload ≠ firstPayload ∧
      (uploadEvent 0 (uploadOf firstPayload) Redelivery.sampleServer).1 =
        .ok ⟨1, false⟩ ∧
      (uploadEvent 0 (uploadOf rotatedPayload)
        (uploadEvent 0 (uploadOf firstPayload) Redelivery.sampleServer).2).1 =
          .error .conflict := by
  refine ⟨⟨⟨?_, ?_⟩, trivial⟩, fetched_after_creation, ?_, ?_, ?_, ?_⟩
  · simp
  · simp
  · exact ⟨0, 50, [⟨sampleId, FixedBytes.fill 16 5, rotatedPayload, 0⟩],
      by decide +kernel, _, List.mem_cons_self, rfl, rfl⟩
  all_goals decide +kernel

end ResilientMessenger.PendingUploads
