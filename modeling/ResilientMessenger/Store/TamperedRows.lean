import ResilientMessenger.Store.Durability

/-!
# Bodies moved between rows

Every body is sealed with the same associated data, `MESSAGE_AAD`, whatever row it is
stored in.  A body that is moved to another row therefore opens there: the text of one
message is listed under the identifier of another.  Listing fails only when a row it
reads is sealed under a key that is no longer active, which a rotation between the two
steps of a creation can leave behind.
-/

namespace ResilientMessenger.TamperedRows

open ResilientMessenger.ByteCodec
open ResilientMessenger.LocalDatabase
open ResilientMessenger.StoreOperations
open ResilientMessenger.MessageLifecycle
open ResilientMessenger.Runs
open ResilientMessenger.KeyRotation (System Sealed insert_cases sealed_encrypt
  sealed_insert decrypt_same_key decrypt_other_key)
open ResilientMessenger.Durability
open ResilientMessenger.Acknowledgements (sampleKey sampleId sampleCreate)

/-! ## Stores and what is done to them -/

/-- A whole call or a restart, or one of the two steps of a creation, between which
other calls may run. -/
inductive Label where
  | whole (label : Durability.Label)
  | half (label : KeyRotation.Label)

def step (aead : Aead) (system : System) : Label → System
  | .whole label => { system with core := Durability.step aead system.core label }
  | .half label => system.step aead label

/-- The stored body of the target replaced by that of the source. -/
def moveBody (target source : MessageRow) (core : MessengerCore) : MessengerCore :=
  { core with
    db := core.db.setBody target.clientMessageId source.bodyCiphertext }

/-- The body is sealed under a key that is not the active one. -/
def Outdated (aead : Aead) (core : MessengerCore) (row : MessageRow) : Prop :=
  ∃ key nonce plaintext, key ≠ core.masterKey ∧
    encrypt aead key nonce plaintext = .ok row.bodyCiphertext

/-- Listing the target's conversation fails over a key: the source, or a row of the
conversation other than the target, is sealed under one that is not active. -/
def Refusable (aead : Aead) (core : MessengerCore) (target source : MessageRow) : Prop :=
  Outdated aead core source ∨
    ∃ row ∈ core.db.messages.rows, row.conversationId = target.conversationId ∧
      row.clientMessageId ≠ target.clientMessageId ∧ Outdated aead core row

/-! ## What is stored -/

/-- The body is a text sealed under some key, and the status can be read. -/
def Sound (aead : Aead) (row : MessageRow) : Prop :=
  ∃ key nonce text status,
    encrypt aead key nonce (utf8 text) = .ok row.bodyCiphertext ∧
      row.status = MessageStatus.code status

def SoundRows (aead : Aead) (core : MessengerCore) : Prop :=
  ∀ id row, core.db.messages.lookup id = some row → Sound aead row

section Stored

variable {aead : Aead} {core next : MessengerCore}

theorem soundRows_call (hcorrect : aead.Correct) (operation : Operation)
    (hsound : SoundRows aead core) :
    SoundRows aead (StoreOperations.step aead core operation) := by
  intro id row hrow
  cases step_rowMoves aead core operation id with
  | restatused hkey hmoved =>
      rcases hmoved with hsame | ⟨status, hstatus⟩
      · exact hsound id row (hsame ▸ hrow)
      · rw [hstatus] at hrow
        obtain ⟨before, hbefore, rfl⟩ := Option.map_eq_some_iff.mp hrow
        obtain ⟨key, nonce, text, -, hencrypt, -⟩ := hsound id before hbefore
        exact ⟨key, nonce, text, status, hencrypt, rfl⟩
  | created hkey hfree hencrypt hfresh =>
      rw [hfresh] at hrow
      cases hrow
      exact ⟨_, _, _, .readyToUpload, hencrypt, rfl⟩
  | @rotated nonces newKey newVersion nonce before plaintext body hlookup hdecrypt
      hencrypt hrotated =>
      rw [hrotated] at hrow
      cases hrow
      obtain ⟨key, oldNonce, text, status, hsealed, hstatus⟩ := hsound id before hlookup
      -- a rotation that commits has opened the body, so it was under the active key
      have hactive : key = core.masterKey := by
        by_contra hother
        rw [decrypt_other_key hcorrect (Ne.symm hother) hsealed] at hdecrypt
        cases hdecrypt
      subst hactive
      rw [decrypt_same_key hcorrect hsealed] at hdecrypt
      cases hdecrypt
      exact ⟨_, _, text, status, hencrypt, hstatus⟩
  | missing hbefore hafter =>
      rw [hafter] at hrow
      cases hrow
  | wiped hgone =>
      rw [hgone] at hrow
      cases hrow

theorem soundRows_insert {system : System} (hsound : SoundRows aead system.core)
    (hsealed : Sealed aead system) (call : ℕ) (now : ℤ) :
    SoundRows aead (system.insert call now).core := by
  cases hpending : system.pending call with
  | none =>
      have hidle : system.insert call now = system := by
        simp [System.insert, hpending]
      rw [hidle]
      exact hsound
  | some creation =>
      rcases insert_cases hpending now with ⟨-, hcore, -⟩ | ⟨-, -, hrows, -⟩
      · rw [hcore]
        exact hsound
      · intro id row hrow
        rw [hrows] at hrow
        split at hrow
        · cases hrow
          obtain ⟨nonce, hencrypt⟩ := hsealed call creation hpending
          exact ⟨_, nonce, _, .readyToUpload, hencrypt, rfl⟩
        · exact hsound id row hrow

/-- The stored rows are sound, and so is what pending creations are about to store. -/
def SoundSystem (aead : Aead) (system : System) : Prop :=
  SoundRows aead system.core ∧ Sealed aead system

theorem soundSystem_step (hcorrect : aead.Correct) (system : System) (label : Label)
    (hsound : SoundSystem aead system) : SoundSystem aead (step aead system label) := by
  obtain ⟨hrows, hsealed⟩ := hsound
  cases label with
  | whole label =>
      refine ⟨?_, hsealed⟩
      cases label with
      | call operation => exact soundRows_call hcorrect operation hrows
      | reopen =>
          simp only [step, step_reopen]
          exact hrows
  | half label =>
      cases label with
      | encrypt call id nonce conversationId plaintext =>
          refine ⟨?_, sealed_encrypt hsealed call id nonce conversationId plaintext⟩
          simp only [step, System.step, System.encrypt]
          split <;> exact hrows
      | insert call now =>
          exact ⟨soundRows_insert hrows hsealed call now, sealed_insert hsealed call now⟩
      | rotate nonces newKey newVersion =>
          exact ⟨soundRows_call hcorrect (.rotateMasterKey nonces newKey newVersion) hrows,
            hsealed⟩

theorem soundRows_run (hcorrect : aead.Correct) (key : Key) (labels : List Label) :
    SoundRows aead (run (step aead) (System.opened key) labels).core := by
  have hstart : SoundSystem aead (System.opened key) := by
    constructor
    · intro id row hrow
      cases hrow
    · intro call creation hpending
      cases hpending
  exact (run_invariant (soundSystem_step hcorrect) hstart labels).1

end Stored

/-! ## What is listed -/

/-- When rows are read or refused with one error, a single refused row refuses the
list. -/
theorem mapM_eq_error_iff {α β ε : Type} {f : α → Except ε β} {rows : List α}
    {failure : ε}
    (hrows : ∀ row ∈ rows, (∃ entry, f row = .ok entry) ∨ f row = .error failure) :
    rows.mapM f = .error failure ↔ ∃ row ∈ rows, f row = .error failure := by
  induction rows with
  | nil => exact iff_of_false (by simp [pure, Except.pure]) (by simp)
  | cons row rows ih =>
      have htail := ih fun other hother => hrows other (List.mem_cons_of_mem row hother)
      simp only [List.exists_mem_cons_iff, ← htail, List.mapM_cons]
      rcases hrows row List.mem_cons_self with ⟨entry, hentry⟩ | hfailure
      · rw [hentry]
        cases List.mapM f rows <;> simp [bind, Except.bind, pure, Except.pure]
      · rw [hfailure]
        simp [bind, Except.bind]

section Listed

variable {aead : Aead} {core : MessengerCore} {row target source : MessageRow}

theorem opened_of_sound (hcorrect : aead.Correct) (hsound : Sound aead row)
    (hcurrent : ¬Outdated aead core row) : ∃ text status,
      decrypt aead core.masterKey row.bodyCiphertext = .ok (utf8 text) ∧
        row.status = MessageStatus.code status := by
  obtain ⟨key, nonce, text, status, hencrypt, hstatus⟩ := hsound
  have hactive : key = core.masterKey := by
    by_contra hother
    exact hcurrent ⟨key, nonce, utf8 text, hother, hencrypt⟩
  subst hactive
  exact ⟨text, status, decrypt_same_key hcorrect hencrypt, hstatus⟩

theorem localMessage_outdated (hcorrect : aead.Correct)
    (houtdated : Outdated aead core row) :
    localMessage aead core.masterKey row = .error .authentication := by
  obtain ⟨key, nonce, plaintext, hother, hencrypt⟩ := houtdated
  rw [localMessage, decrypt_other_key hcorrect (Ne.symm hother) hencrypt]
  rfl

theorem localMessage_eq_error_iff (hcorrect : aead.Correct) (hsound : Sound aead row) :
    localMessage aead core.masterKey row = .error .authentication ↔
      Outdated aead core row := by
  constructor
  · intro hrefused
    by_contra hcurrent
    obtain ⟨text, status, hdecrypt, hstatus⟩ := opened_of_sound hcorrect hsound hcurrent
    rw [localMessage_eq_ok hdecrypt hstatus] at hrefused
    cases hrefused
  · exact localMessage_outdated hcorrect

/-- The rows of the target's conversation after the body is moved. -/
theorem mem_rows_moveBody (htarget : target ∈ core.db.messages.rows) :
    row ∈ conversationRows target.conversationId (moveBody target source core).db ↔
      row = { target with bodyCiphertext := source.bodyCiphertext } ∨
        row ∈ core.db.messages.rows ∧ row.conversationId = target.conversationId ∧
          row.clientMessageId ≠ target.clientMessageId := by
  have hlookup := Table.mem_rows_iff.mp htarget
  rw [mem_conversationRows, Table.mem_rows_iff, Table.mem_rows_iff, moveBody,
    setBody_messages]
  by_cases hid : row.clientMessageId = target.clientMessageId
  · rw [if_pos hid, hlookup]
    simp only [Option.map_some, Option.some.injEq, hid, ne_eq, not_true, and_false,
      or_false]
    constructor
    · rintro ⟨rfl, -⟩
      rfl
    · rintro rfl
      exact ⟨rfl, rfl⟩
  · rw [if_neg hid]
    have hother : row ≠ { target with bodyCiphertext := source.bodyCiphertext } := by
      rintro rfl
      exact hid rfl
    simp [hid, hother]

/-- A row that is read after the body is moved is sealed under a key that is not
active. -/
theorem refusable_iff (htarget : target ∈ core.db.messages.rows) :
    Refusable aead core target source ↔
      ∃ row ∈ conversationRows target.conversationId (moveBody target source core).db,
        Outdated aead core row := by
  constructor
  · rintro (houtdated | ⟨row, hrow, hsame, hother, houtdated⟩)
    · exact ⟨_, (mem_rows_moveBody htarget).mpr (.inl rfl), houtdated⟩
    · exact ⟨row, (mem_rows_moveBody htarget).mpr (.inr ⟨hrow, hsame, hother⟩),
        houtdated⟩
  · rintro ⟨row, hrow, houtdated⟩
    rcases (mem_rows_moveBody htarget).mp hrow with rfl | ⟨hrow, hsame, hother⟩
    · exact .inl houtdated
    · exact .inr ⟨row, hrow, hsame, hother, houtdated⟩

/-- A moved body is sealed as it was, and the target keeps its status. -/
theorem sound_moveBody (hsound : SoundRows aead core)
    (htarget : target ∈ core.db.messages.rows)
    (hsource : source ∈ core.db.messages.rows)
    (hrow : row ∈ conversationRows target.conversationId
      (moveBody target source core).db) : Sound aead row := by
  rcases (mem_rows_moveBody htarget).mp hrow with rfl | ⟨hrow, -⟩
  · obtain ⟨key, nonce, text, -, hencrypt, -⟩ :=
      hsound _ source (Table.mem_rows_iff.mp hsource)
    obtain ⟨-, -, -, status, -, hstatus⟩ :=
      hsound _ target (Table.mem_rows_iff.mp htarget)
    exact ⟨key, nonce, text, status, hencrypt, hstatus⟩
  · exact hsound _ row (Table.mem_rows_iff.mp hrow)

theorem refused_iff_of_sound (hcorrect : aead.Correct) (hsound : SoundRows aead core)
    (htarget : target ∈ core.db.messages.rows)
    (hsource : source ∈ core.db.messages.rows) :
    listMessages aead target.conversationId (moveBody target source core) =
        .error .authentication ↔ Refusable aead core target source := by
  have hread : ∀ row ∈ conversationRows target.conversationId
      (moveBody target source core).db,
      (∃ entry, localMessage aead core.masterKey row = .ok entry) ∨
        localMessage aead core.masterKey row = .error .authentication := by
    intro row hrow
    by_cases houtdated : Outdated aead core row
    · exact .inr (localMessage_outdated hcorrect houtdated)
    · obtain ⟨text, status, hdecrypt, hstatus⟩ := opened_of_sound hcorrect
        (sound_moveBody hsound htarget hsource hrow) houtdated
      exact .inl ⟨_, localMessage_eq_ok hdecrypt hstatus⟩
  rw [refusable_iff htarget]
  apply (mapM_eq_error_iff hread).trans
  apply exists_congr
  intro row
  apply and_congr_right
  intro hrow
  exact localMessage_eq_error_iff hcorrect (sound_moveBody hsound htarget hsource hrow)

/-- What opens for the source opens for the target. -/
theorem listed_of_sound (hcorrect : aead.Correct) (hsound : SoundRows aead core)
    (htarget : target ∈ core.db.messages.rows)
    (hsource : source ∈ core.db.messages.rows)
    (hunnoticed : ¬Refusable aead core target source) :
    ∃ text, decrypt aead core.masterKey source.bodyCiphertext = .ok (utf8 text) ∧
      Listed aead target.conversationId target.clientMessageId text
        (moveBody target source core) := by
  have hcurrent : ¬Outdated aead core source := fun houtdated =>
    hunnoticed (.inl houtdated)
  obtain ⟨text, -, htext, -⟩ := opened_of_sound hcorrect
    (hsound _ source (Table.mem_rows_iff.mp hsource)) hcurrent
  refine ⟨text, htext, ?_⟩
  apply listed_of_readable
  · intro row hrow
    apply opened_of_sound hcorrect (sound_moveBody hsound htarget hsource hrow)
    intro houtdated
    exact hunnoticed ((refusable_iff htarget).mpr ⟨row, hrow, houtdated⟩)
  · have hrow : { target with bodyCiphertext := source.bodyCiphertext } ∈
        conversationRows target.conversationId (moveBody target source core).db :=
      (mem_rows_moveBody htarget).mpr (.inl rfl)
    have hlookup := Table.mem_rows_iff.mp (mem_conversationRows.mp hrow).1
    exact ⟨_, hlookup, rfl, htext⟩

end Listed

/-- In every store that calls, restarts and interrupted creations can lead to, moving
the body of one row to another is refused exactly when listing fails over a key.
Otherwise the text of the one message is listed under the identifier of the other. -/
theorem moved_body_refused_iff (aead : Aead) (hideal : aead.Ideal) (key : Key)
    (labels : List Label) (target source : MessageRow)
    (htarget : target ∈
      (run (step aead) (System.opened key) labels).core.db.messages.rows)
    (hsource : source ∈
      (run (step aead) (System.opened key) labels).core.db.messages.rows) :
    let core := (run (step aead) (System.opened key) labels).core
    (listMessages aead target.conversationId (moveBody target source core) =
        .error .authentication ↔ Refusable aead core target source) ∧
      (¬Refusable aead core target source →
        ∃ text, decrypt aead core.masterKey source.bodyCiphertext = .ok (utf8 text) ∧
          Listed aead target.conversationId target.clientMessageId text
            (moveBody target source core)) := by
  intro core
  have hcorrect := hideal.toCorrect
  have hsound : SoundRows aead core := soundRows_run hcorrect key labels
  refine ⟨refused_iff_of_sound hcorrect hsound htarget hsource, ?_⟩
  exact listed_of_sound hcorrect hsound htarget hsource

/-- Two messages in two conversations. -/
def twoCreations : List Label :=
  [.whole (.call sampleCreate),
    .whole (.call (.createMessage (FixedBytes.fill 16 7) (FixedBytes.fill 24 8) 1
      (FixedBytes.fill 16 9) "NO"))]

def firstMessage : MessageRow :=
  freshMessageRow sampleId (FixedBytes.fill 16 4)
    ((FixedBytes.fill 24 3).toList ++
      (Aead.label sampleKey (FixedBytes.fill 24 3) messageAad ++ utf8 "OK")) 0

def secondMessage : MessageRow :=
  freshMessageRow (FixedBytes.fill 16 7) (FixedBytes.fill 16 9)
    ((FixedBytes.fill 24 8).toList ++
      (Aead.label sampleKey (FixedBytes.fill 24 8) messageAad ++ utf8 "NO")) 1

theorem second_text_under_first_id :
    let core := (run (step Aead.labelled) (System.opened sampleKey) twoCreations).core
    Aead.labelled.Ideal ∧ firstMessage ∈ core.db.messages.rows ∧
      secondMessage ∈ core.db.messages.rows ∧
      firstMessage.clientMessageId ≠ secondMessage.clientMessageId ∧
      listMessages Aead.labelled (FixedBytes.fill 16 4)
          (moveBody firstMessage secondMessage core) =
        .ok [⟨sampleId, FixedBytes.fill 16 4, "NO", .readyToUpload, 0⟩] :=
  ⟨Aead.labelled_ideal, by decide +kernel, by decide +kernel, by decide +kernel,
    by decide +kernel⟩

/-- The theorem at these messages. -/
theorem moved_second_message_listed :
    ∃ text, Listed Aead.labelled (FixedBytes.fill 16 4) sampleId text
      (moveBody firstMessage secondMessage
        (run (step Aead.labelled) (System.opened sampleKey) twoCreations).core) := by
  obtain ⟨hrefused, hlisted⟩ := moved_body_refused_iff Aead.labelled Aead.labelled_ideal
    sampleKey twoCreations firstMessage secondMessage (by decide +kernel)
    (by decide +kernel)
  have hread : listMessages Aead.labelled firstMessage.conversationId
      (moveBody firstMessage secondMessage
        (run (step Aead.labelled) (System.opened sampleKey) twoCreations).core) ≠
      .error .authentication := by
    decide +kernel
  obtain ⟨text, -, hlisted⟩ := hlisted fun hrefusable => hread (hrefused.mpr hrefusable)
  exact ⟨text, hlisted⟩

end ResilientMessenger.TamperedRows
