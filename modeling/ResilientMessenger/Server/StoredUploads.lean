import ResilientMessenger.Server.Redelivery

/-!
# Acknowledged uploads

An upload that was answered with `Ok` should be stored as it was sent.  A new
event and a new Welcome are.  An upload that meets an older row is compared with
it in part: events in their id and ciphertext, Welcomes not at all.  The results
say which older rows make the acknowledgement wrong.
-/

namespace ResilientMessenger.StoredUploads

open ResilientMessenger.ByteCodec
open ResilientMessenger.Schema
open ResilientMessenger.Backend
open ResilientMessenger.Transaction
open ResilientMessenger.Redelivery

/-! ## Events -/

/-- The row carries every field of the request. -/
structure EventAsSent (event : UploadedEvent) (row : EventRow) : Prop where
  groupId : row.groupId = event.groupId
  eventId : row.eventId = event.eventId
  authorDeviceId : row.authorDeviceId = event.authorDeviceId
  clientMessageId : row.clientMessageId = event.clientMessageId
  eventKind : row.eventKind = event.eventKind
  ciphertext : row.ciphertext = event.ciphertext
  correlationId : row.correlationId = event.correlationId

/-- The size and the membership checks let the event through. -/
def EventAdmitted (event : UploadedEvent) (db : Database) : Prop :=
  ¬(event.ciphertext = [] ∨ 65536 < event.ciphertext.length) ∧
    admitUpload event db = .ok ()

/-- The row stored for the author under the same client message id. -/
def earlierRow (event : UploadedEvent) (db : Database) : Option EventRow :=
  db.groupEvents.rows.find? fun row =>
    row.authorDeviceId = event.authorDeviceId ∧
      row.clientMessageId = event.clientMessageId

/-- The earlier row is taken for this event, so it should agree with it in what
is not compared. -/
def EarlierEventAgrees (event : UploadedEvent) (db : Database) : Prop :=
  ∀ row, earlierRow event db = some row → row.eventId = event.eventId →
    row.ciphertext = event.ciphertext →
      row.groupId = event.groupId ∧ row.eventKind = event.eventKind ∧
        row.correlationId = event.correlationId

theorem earlierRow_eq_some {event : UploadedEvent} {db : Database} {row : EventRow}
    (hrow : earlierRow event db = some row) :
    row ∈ db.groupEvents.rows ∧ row.authorDeviceId = event.authorDeviceId ∧
      row.clientMessageId = event.clientMessageId := by
  have hfound := List.find?_some hrow
  simp only [decide_eq_true_eq] at hfound
  exact ⟨List.mem_of_find?_eq_some hrow, hfound⟩

/-- An accepted event is a repetition of the earlier row, or it was inserted. -/
theorem uploadEvent_ok_cases {now : Time} {event : UploadedEvent}
    {db stored : Database} {accepted : UploadAccepted}
    (hupload : uploadEvent now event db = (.ok accepted, stored)) :
    EventAdmitted event db ∧
      ((∃ row, earlierRow event db = some row ∧ row.eventId = event.eventId ∧
          row.ciphertext = event.ciphertext ∧ row.eventCursor = accepted.cursor ∧
          stored = db) ∨
        (earlierRow event db = none ∧
          event.row now accepted.cursor ∈ stored.groupEvents.rows)) := by
  rcases uploadEvent_outcomes now event db with ⟨failure, houtcome⟩ |
    ⟨hsize, ⟨cursor, hcheck, houtcome⟩ | ⟨hcheck, ⟨failure, -, houtcome⟩ |
      ⟨inserted, hinsert, houtcome⟩⟩⟩
  · rw [houtcome] at hupload
    cases hupload
  · rw [houtcome] at hupload
    cases hupload
    obtain ⟨admitted, hadmitted, hearlier⟩ := bind_eq_ok.mp hcheck
    refine ⟨⟨hsize, hadmitted⟩, .inl ?_⟩
    unfold earlierUpload at hearlier
    split at hearlier
    case h_1 => cases hearlier
    case h_2 row hrow =>
      split at hearlier
      case isTrue hsame =>
        cases hearlier
        exact ⟨row, hrow, hsame.1, hsame.2, rfl, rfl⟩
      case isFalse => cases hearlier
  · rw [houtcome] at hupload
    cases hupload
  · rw [houtcome] at hupload
    cases hupload
    obtain ⟨admitted, hadmitted, hnew⟩ := bind_eq_ok.mp hcheck
    refine ⟨⟨hsize, hadmitted⟩, .inr ⟨earlierUpload_eq_none hnew, ?_⟩⟩
    obtain ⟨groupEvents, rfl, hrows, -⟩ := Database.insertEvent_eq_ok hinsert
    rw [hrows]
    exact List.mem_append_right _ (List.mem_singleton_self _)

/-- An admitted event is acknowledged when the earlier row has its id and
ciphertext. -/
theorem uploadEvent_repeated {event : UploadedEvent} {db : Database} {row : EventRow}
    (now : Time) (hadmitted : EventAdmitted event db)
    (hrow : earlierRow event db = some row) (hid : row.eventId = event.eventId)
    (hciphertext : row.ciphertext = event.ciphertext) :
    uploadEvent now event db = (.ok ⟨row.eventCursor, true⟩, db) := by
  have hearlier : earlierUpload event db = .ok (some row.eventCursor) := by
    unfold earlierRow at hrow
    simp only [earlierUpload, hrow]
    rw [if_pos ⟨hid, hciphertext⟩]
  have hcheck : checkUpload event db = .ok (some row.eventCursor) :=
    bind_eq_ok.mpr ⟨(), hadmitted.2, hearlier⟩
  rw [uploadEvent, if_neg hadmitted.1, hcheck]

/-- Every acknowledgement of the event leads to its row. -/
def EventAcknowledged (now : Time) (event : UploadedEvent) (db : Database) : Prop :=
  ∀ accepted stored, uploadEvent now event db = (.ok accepted, stored) →
    ∃ row ∈ stored.groupEvents.rows,
      row.eventCursor = accepted.cursor ∧ EventAsSent event row

theorem eventAcknowledged_iff (now : Time) (event : UploadedEvent) (db : Database) :
    EventAcknowledged now event db ↔
      (EventAdmitted event db → EarlierEventAgrees event db) := by
  constructor
  · intro hacknowledged hadmitted row hrow hid hciphertext
    have hrepeated := uploadEvent_repeated now hadmitted hrow hid hciphertext
    obtain ⟨found, hfound, -, hsent⟩ := hacknowledged _ _ hrepeated
    -- the event id is a key, so the row found is the row that was repeated
    have hsame : found = row := by
      have hmem := (earlierRow_eq_some hrow).1
      have hlookup := Table.mem_rows_iff.mp hmem
      rw [hid, ← hsent.eventId, Table.mem_rows_iff.mp hfound] at hlookup
      exact Option.some.inj hlookup
    subst hsame
    exact ⟨hsent.groupId, hsent.eventKind, hsent.correlationId⟩
  · intro hagrees accepted stored hupload
    obtain ⟨hadmitted, ⟨row, hrow, hid, hciphertext, hcursor, rfl⟩ | ⟨-, hnew⟩⟩ :=
      uploadEvent_ok_cases hupload
    · obtain ⟨hmem, hauthor, hclient⟩ := earlierRow_eq_some hrow
      obtain ⟨hgroup, hkind, hcorrelation⟩ :=
        hagrees hadmitted row hrow hid hciphertext
      exact ⟨row, hmem, hcursor, hgroup, hid, hauthor, hclient, hkind, hciphertext,
        hcorrelation⟩
    · exact ⟨_, hnew, rfl, rfl, rfl, rfl, rfl, rfl, rfl, rfl⟩

/-! ## Welcomes -/

structure WelcomeAsSent (target group : Id16) (welcome : Bytes) (row : WelcomeRow) :
    Prop where
  targetDeviceId : row.targetDeviceId = target
  groupId : row.groupId = group
  welcome : row.welcome = welcome

/-- The checks before the insertion let the Welcome through. -/
def WelcomeAdmitted (author target group : Id16) (welcome : Bytes) (db : Database) :
    Prop :=
  ¬(welcome = [] ∨ 65536 < welcome.length) ∧
    assertActiveMember group author db = .ok () ∧
    (db.groupMembers.lookup (group, target)).isSome = true

/-- A row that already has the id should be this Welcome. -/
def EarlierWelcomeAgrees (target group welcomeId : Id16) (welcome : Bytes)
    (db : Database) : Prop :=
  ∀ row, db.welcomeMailbox.lookup welcomeId = some row →
    WelcomeAsSent target group welcome row

/-- Every acknowledgement of the Welcome leads to its row. -/
def WelcomeAcknowledged (now : Time) (author target group welcomeId : Id16)
    (welcome : Bytes) (db : Database) : Prop :=
  ∀ stored, uploadWelcome now author target group welcomeId welcome db =
      (.ok (), stored) →
    ∃ row, stored.welcomeMailbox.lookup welcomeId = some row ∧
      WelcomeAsSent target group welcome row

/-- The row an upload of this Welcome inserts. -/
def welcomeRow (now : Time) (target group welcomeId : Id16) (welcome : Bytes) :
    WelcomeRow where
  welcomeId := welcomeId
  targetDeviceId := target
  groupId := group
  welcome := welcome
  expiresAt := now + seconds eventTtlSeconds
  consumedAt := none

theorem insertWelcomeOrIgnore_cases {db stored : Database} {row : WelcomeRow}
    (hinsert : db.insertWelcomeOrIgnore row = .ok stored) :
    ((db.welcomeMailbox.lookup row.welcomeId).isSome = true ∧ stored = db) ∨
      stored.welcomeMailbox.lookup row.welcomeId = some row := by
  unfold Database.insertWelcomeOrIgnore at hinsert
  split at hinsert
  case isTrue hpresent =>
    cases hinsert
    exact .inl ⟨hpresent, rfl⟩
  case isFalse =>
    simp only [bind_eq_ok, pure_eq_ok, Database.insertInto_eq_ok] at hinsert
    obtain ⟨welcomeMailbox, ⟨-, hrows⟩, rfl⟩ := hinsert
    refine .inr ?_
    rw [Table.lookup_insert? hrows, if_pos rfl]

/-- An accepted Welcome was passed over for the row that has its id, or it was
inserted. -/
theorem uploadWelcome_ok_cases {now : Time} {author target group welcomeId : Id16}
    {welcome : Bytes} {db stored : Database}
    (hupload : uploadWelcome now author target group welcomeId welcome db =
      (.ok (), stored)) :
    WelcomeAdmitted author target group welcome db ∧
      ((∃ row, db.welcomeMailbox.lookup welcomeId = some row ∧ stored = db) ∨
        stored.welcomeMailbox.lookup welcomeId =
          some (welcomeRow now target group welcomeId welcome)) := by
  obtain ⟨hsize, hactive, hknown, hinsert⟩ := uploadWelcome_inserted hupload
  rw [Option.isNone_eq_false_iff] at hknown
  refine ⟨⟨hsize, hactive, hknown⟩, ?_⟩
  rcases insertWelcomeOrIgnore_cases hinsert with ⟨hpresent, rfl⟩ | hnew
  · obtain ⟨row, hrow⟩ := Option.isSome_iff_exists.mp hpresent
    exact .inl ⟨row, hrow, rfl⟩
  · exact .inr hnew

/-- An admitted Welcome is acknowledged whatever row has its id. -/
theorem uploadWelcome_repeated {author target group welcomeId : Id16}
    {welcome : Bytes} {db : Database} {row : WelcomeRow} (now : Time)
    (hadmitted : WelcomeAdmitted author target group welcome db)
    (hrow : db.welcomeMailbox.lookup welcomeId = some row) :
    uploadWelcome now author target group welcomeId welcome db = (.ok (), db) := by
  obtain ⟨hsize, hactive, hknown⟩ := hadmitted
  rw [uploadWelcome, if_neg hsize]
  apply transaction_of_ok
  apply bind_eq_ok.mpr
  refine ⟨(), hactive, ?_⟩
  have hignored : db.insertWelcomeOrIgnore
      ⟨welcomeId, target, group, welcome, now + seconds eventTtlSeconds, none⟩ =
        .ok db := by
    rw [Database.insertWelcomeOrIgnore, hrow]
    rfl
  rw [Option.isNone_eq_false_iff.mpr hknown, hignored]
  rfl

theorem welcomeAcknowledged_iff (now : Time) (author target group welcomeId : Id16)
    (welcome : Bytes) (db : Database) :
    WelcomeAcknowledged now author target group welcomeId welcome db ↔
      (WelcomeAdmitted author target group welcome db →
        EarlierWelcomeAgrees target group welcomeId welcome db) := by
  constructor
  · intro hacknowledged hadmitted row hrow
    have hrepeated := uploadWelcome_repeated now hadmitted hrow
    obtain ⟨found, hfound, hsent⟩ := hacknowledged db hrepeated
    rw [hrow] at hfound
    cases hfound
    exact hsent
  · intro hagrees stored hupload
    obtain ⟨hadmitted, ⟨row, hrow, rfl⟩ | hnew⟩ := uploadWelcome_ok_cases hupload
    · exact ⟨row, hrow, hagrees hadmitted row hrow⟩
    · exact ⟨_, hnew, rfl, rfl, rfl⟩

/-! ## Both uploads -/

/-- An acknowledged event and an acknowledged Welcome are stored as sent exactly
when the older rows the uploads are taken for agree with them: the event's row in
group, kind and correlation id, the Welcome's row in everything. -/
theorem acknowledged_as_sent_iff (now : Time) (db : Database) (event : UploadedEvent)
    (author target group welcomeId : Id16) (welcome : Bytes) :
    (EventAcknowledged now event db ∧
        WelcomeAcknowledged now author target group welcomeId welcome db) ↔
      (EventAdmitted event db → EarlierEventAgrees event db) ∧
        (WelcomeAdmitted author target group welcome db →
          EarlierWelcomeAgrees target group welcomeId welcome db) := by
  rw [eventAcknowledged_iff, welcomeAcknowledged_iff]

/-- The device of the sample server in a second group of its own, where an event
and a Welcome for itself are stored. -/
def twoGroups : Database :=
  { sampleServer with
    groups := ⟨[⟨FixedBytes.fill 16 5, FixedBytes.fill 16 3⟩,
      ⟨FixedBytes.fill 16 6, FixedBytes.fill 16 3⟩], by decide⟩
    groupMembers := ⟨[⟨FixedBytes.fill 16 5, FixedBytes.fill 16 3,
        FixedBytes.fill 32 1, 2, none⟩,
      ⟨FixedBytes.fill 16 6, FixedBytes.fill 16 3, FixedBytes.fill 32 1, 2,
        none⟩], by decide⟩
    groupEvents := ⟨[⟨1, FixedBytes.fill 16 10, FixedBytes.fill 16 5,
      FixedBytes.fill 16 3, FixedBytes.fill 16 9, none, 1, [42], 604800000000⟩],
      by decide⟩
    welcomeMailbox := ⟨[⟨FixedBytes.fill 16 11, FixedBytes.fill 16 3,
      FixedBytes.fill 16 5, [42], 604800000000, none⟩], by decide⟩
    eventSequence := 1 }

/-- The stored event once more, for the other group and as another kind. -/
def misdirectedEvent : UploadedEvent where
  eventId := FixedBytes.fill 16 10
  groupId := FixedBytes.fill 16 6
  authorDeviceId := FixedBytes.fill 16 3
  clientMessageId := FixedBytes.fill 16 9
  eventKind := 3
  ciphertext := [42]
  correlationId := none

/-- Both uploads are acknowledged and neither is stored: the event stays in the
first group, and the other content of the Welcome is dropped. -/
theorem misdirected_uploads_acknowledged :
    uploadEvent 0 misdirectedEvent twoGroups = (.ok ⟨1, true⟩, twoGroups) ∧
      ¬EventAcknowledged 0 misdirectedEvent twoGroups ∧
      uploadWelcome 0 (FixedBytes.fill 16 3) (FixedBytes.fill 16 3)
        (FixedBytes.fill 16 6) (FixedBytes.fill 16 11) [43] twoGroups =
          (.ok (), twoGroups) ∧
      ¬WelcomeAcknowledged 0 (FixedBytes.fill 16 3) (FixedBytes.fill 16 3)
        (FixedBytes.fill 16 6) (FixedBytes.fill 16 11) [43] twoGroups := by
  have hevent : uploadEvent 0 misdirectedEvent twoGroups =
      (.ok ⟨1, true⟩, twoGroups) := by decide +kernel
  have hwelcome : uploadWelcome 0 (FixedBytes.fill 16 3) (FixedBytes.fill 16 3)
      (FixedBytes.fill 16 6) (FixedBytes.fill 16 11) [43] twoGroups =
        (.ok (), twoGroups) := by decide +kernel
  refine ⟨hevent, ?_, hwelcome, ?_⟩
  · intro hacknowledged
    obtain ⟨row, hrow, -, hsent⟩ := hacknowledged _ _ hevent
    rw [List.mem_singleton.mp hrow] at hsent
    exact absurd hsent.eventKind (by decide)
  · intro hacknowledged
    obtain ⟨row, hrow, hsent⟩ := hacknowledged _ hwelcome
    cases hrow
    exact absurd hsent.welcome (by decide)

end ResilientMessenger.StoredUploads
