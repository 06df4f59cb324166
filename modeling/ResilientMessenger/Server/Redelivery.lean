import ResilientMessenger.Server.Dispatch

/-!
# Redelivered uploads

The transport repeats a frame until some endpoint answers `Ok`, so the server
sees uploads again that it has already carried out.  For every operation this
module says what the second delivery does.  Events, Welcomes and recovery
packages are recognised and leave the state alone; key packages and groups are
refused.
-/

namespace ResilientMessenger.Redelivery

open ResilientMessenger.ByteCodec
open ResilientMessenger.ByteReader (decodeWith)
open ResilientMessenger.Frames
open ResilientMessenger.Identity
open ResilientMessenger.Schema
open ResilientMessenger.Backend
open ResilientMessenger.Dispatch
open ResilientMessenger.Transaction

/-! ## Events -/

/-- Admission reads members and operations only. -/
theorem admitUpload_congr {event : UploadedEvent} {db other : Database}
    (hmembers : other.groupMembers = db.groupMembers)
    (hoperations : other.membershipOperations = db.membershipOperations) :
    admitUpload event other = admitUpload event db := by
  cases db
  cases other
  cases hmembers
  cases hoperations
  rfl

theorem earlierUpload_eq_none {event : UploadedEvent} {db : Database}
    (hnew : earlierUpload event db = .ok none) :
    db.groupEvents.rows.find? (fun row =>
      row.authorDeviceId = event.authorDeviceId ∧
        row.clientMessageId = event.clientMessageId) = none := by
  unfold earlierUpload at hnew
  split at hnew
  case h_1 hfind => exact hfind
  case h_2 => split at hnew <;> cases hnew

/-- An upload that was inserted is an earlier one from then on. -/
theorem earlierUpload_inserted {event : UploadedEvent} {db stored : Database}
    {now : Time} {cursor : ℤ} (hnew : earlierUpload event db = .ok none)
    (hrows : stored.groupEvents.rows =
      db.groupEvents.rows ++ [event.row now cursor]) :
    earlierUpload event stored = .ok (some cursor) := by
  have hfind := earlierUpload_eq_none hnew
  unfold earlierUpload
  rw [hrows, List.find?_append, hfind]
  simp [UploadedEvent.row]

/-- All that an upload can do: it is refused by the checks, or it was there before,
or it takes the next number of the sequence and its row is refused or inserted. -/
theorem uploadEvent_outcomes (now : Time) (event : UploadedEvent) (db : Database) :
    (∃ failure, uploadEvent now event db = (.error failure, db)) ∨
      ¬(event.ciphertext = [] ∨ 65536 < event.ciphertext.length) ∧
        ((∃ cursor, checkUpload event db = .ok (some cursor) ∧
            uploadEvent now event db = (.ok ⟨cursor, true⟩, db)) ∨
          checkUpload event db = .ok none ∧
            ((∃ failure,
              Database.insertEvent { db with eventSequence := db.eventSequence + 1 }
                  (event.row now (db.eventSequence + 1)) = .error failure ∧
                uploadEvent now event db = (.error failure,
                  { db with eventSequence := db.eventSequence + 1 })) ∨
              ∃ stored,
                Database.insertEvent { db with eventSequence := db.eventSequence + 1 }
                    (event.row now (db.eventSequence + 1)) = .ok stored ∧
                  uploadEvent now event db =
                    (.ok ⟨db.eventSequence + 1, false⟩, stored))) := by
  by_cases hsize : event.ciphertext = [] ∨ 65536 < event.ciphertext.length
  · exact .inl ⟨.invalidInput, if_pos hsize⟩
  rw [uploadEvent, if_neg hsize]
  rcases hcheck : checkUpload event db with failure | _ | cursor
  · exact .inl ⟨failure, rfl⟩
  · refine .inr ⟨hsize, .inr ⟨rfl, ?_⟩⟩
    cases hinsert : Database.insertEvent
        { db with eventSequence := db.eventSequence + 1 }
        (event.row now (db.eventSequence + 1)) with
    | error failure =>
        refine .inl ⟨failure, rfl, transaction_of_error ?_⟩
        rw [hinsert]
        rfl
    | ok stored =>
        refine .inr ⟨stored, rfl, transaction_of_ok ?_⟩
        rw [hinsert]
        rfl
  · exact .inr ⟨hsize, .inl ⟨cursor, rfl, rfl⟩⟩

/-- After an accepted upload the sessions are as before, and the checks find
the event under its cursor. -/
theorem uploadEvent_eq_ok {now : Time} {event : UploadedEvent}
    {db stored : Database} {accepted : UploadAccepted}
    (hupload : uploadEvent now event db = (.ok accepted, stored)) :
    ¬(event.ciphertext = [] ∨ 65536 < event.ciphertext.length) ∧
      stored.accessSessions = db.accessSessions ∧
      checkUpload event stored = .ok (some accepted.cursor) := by
  rcases uploadEvent_outcomes now event db with ⟨failure, houtcome⟩ |
    ⟨hsize, ⟨cursor, hcheck, houtcome⟩ | ⟨hcheck, ⟨failure, -, houtcome⟩ |
      ⟨inserted, hinsert, houtcome⟩⟩⟩
  · rw [houtcome] at hupload
    cases hupload
  · rw [houtcome] at hupload
    cases hupload
    exact ⟨hsize, rfl, hcheck⟩
  · rw [houtcome] at hupload
    cases hupload
  · rw [houtcome] at hupload
    cases hupload
    obtain ⟨admitted, hadmitted, hnew⟩ := Transaction.bind_eq_ok.mp hcheck
    obtain ⟨groupEvents, rfl, hrows, -⟩ := Database.insertEvent_eq_ok hinsert
    refine ⟨hsize, rfl, Transaction.bind_eq_ok.mpr
      ⟨admitted, ?_, earlierUpload_inserted hnew hrows⟩⟩
    rw [← hadmitted]
    exact admitUpload_congr rfl rfl

theorem uploadEvent_again {now : Time} {event : UploadedEvent}
    {db stored : Database} {accepted : UploadAccepted}
    (hupload : uploadEvent now event db = (.ok accepted, stored))
    (later : Time) :
    uploadEvent later event stored = (.ok ⟨accepted.cursor, true⟩, stored) := by
  obtain ⟨hsize, -, hcheck⟩ := uploadEvent_eq_ok hupload
  rw [uploadEvent, if_neg hsize, hcheck]

/-! ## Welcomes -/

theorem insertWelcomeOrIgnore_eq_ok {db stored : Database} {row : WelcomeRow}
    (hinsert : db.insertWelcomeOrIgnore row = .ok stored) :
    ∃ welcomeMailbox, stored = { db with welcomeMailbox } ∧
      (welcomeMailbox.lookup row.welcomeId).isSome = true := by
  unfold Database.insertWelcomeOrIgnore at hinsert
  split at hinsert
  case isTrue hpresent =>
    cases hinsert
    exact ⟨db.welcomeMailbox, rfl, hpresent⟩
  case isFalse =>
    simp only [Transaction.bind_eq_ok, Transaction.pure_eq_ok,
      Database.insertInto_eq_ok] at hinsert
    obtain ⟨welcomeMailbox, ⟨-, hrows⟩, rfl⟩ := hinsert
    exact ⟨welcomeMailbox, rfl, by simp [Table.lookup_insert? hrows]⟩

/-- A successful Welcome upload has passed the checks and tried the insertion. -/
theorem uploadWelcome_inserted {now : Time} {author target group welcomeId : Id16}
    {welcome : Bytes} {db stored : Database}
    (hupload : uploadWelcome now author target group welcomeId welcome db =
      (.ok (), stored)) :
    ¬(welcome = [] ∨ 65536 < welcome.length) ∧
      assertActiveMember group author db = .ok () ∧
      (db.groupMembers.lookup (group, target)).isNone = false ∧
      db.insertWelcomeOrIgnore
        ⟨welcomeId, target, group, welcome, now + seconds eventTtlSeconds, none⟩ =
          .ok stored := by
  unfold uploadWelcome at hupload
  split at hupload
  · cases hupload
  case isFalse hsize =>
    rcases transaction_cases db _ with ⟨failure, hfailure⟩ |
      ⟨value, committed, hbody, hcommit⟩
    · rw [hfailure] at hupload
      cases hupload
    · rw [hcommit] at hupload
      cases hupload
      obtain ⟨_, hactive, hrest⟩ := Transaction.bind_eq_ok.mp hbody
      split at hrest
      · cases hrest
      case isFalse hknown =>
        simp only [Transaction.bind_eq_ok, Transaction.pure_eq_ok,
          Prod.mk.injEq] at hrest
        obtain ⟨inserted, hinsert, -, rfl⟩ := hrest
        exact ⟨hsize, hactive, Bool.eq_false_of_not_eq_true hknown, hinsert⟩

/-- What a successful Welcome upload found and left behind. -/
theorem uploadWelcome_eq_ok {now : Time} {author target group welcomeId : Id16}
    {welcome : Bytes} {db stored : Database}
    (hupload : uploadWelcome now author target group welcomeId welcome db =
      (.ok (), stored)) :
    ¬(welcome = [] ∨ 65536 < welcome.length) ∧
      assertActiveMember group author db = .ok () ∧
      (db.groupMembers.lookup (group, target)).isNone = false ∧
      ∃ welcomeMailbox, stored = { db with welcomeMailbox } ∧
        (welcomeMailbox.lookup welcomeId).isSome = true := by
  obtain ⟨hsize, hactive, hknown, hinsert⟩ := uploadWelcome_inserted hupload
  exact ⟨hsize, hactive, hknown, insertWelcomeOrIgnore_eq_ok hinsert⟩

theorem uploadWelcome_again {now : Time} {author target group welcomeId : Id16}
    {welcome : Bytes} {db stored : Database}
    (hupload : uploadWelcome now author target group welcomeId welcome db =
      (.ok (), stored)) (later : Time) :
    uploadWelcome later author target group welcomeId welcome stored =
      (.ok (), stored) := by
  obtain ⟨hsize, hactive, hknown, welcomeMailbox, rfl, hpresent⟩ :=
    uploadWelcome_eq_ok hupload
  rw [uploadWelcome, if_neg hsize]
  apply transaction_of_ok
  apply Transaction.bind_eq_ok.mpr
  refine ⟨(), hactive, ?_⟩
  simp only [hknown, Database.insertWelcomeOrIgnore, hpresent]
  rfl

/-! ## Recovery packages -/

/-- What a successful store found and left behind. -/
theorem storeRecoveryPackage_eq_ok {accountId recoveryIdentifier : Id32}
    {blob : Bytes} {db stored : Database}
    (hstore : storeRecoveryPackage accountId recoveryIdentifier blob db =
      (.ok (), stored)) :
    ¬(blob = [] ∨ maxRecoveryBlobSize < blob.length) ∧
      db.accounts.affects accountId (claimable recoveryIdentifier) = true ∧
      identifierTaken accountId recoveryIdentifier db = false ∧
      stored = { db with
        accounts := db.accounts.modify accountId (claimable recoveryIdentifier)
          (withRecovery recoveryIdentifier blob)
          (accountId_withRecovery recoveryIdentifier blob) } := by
  unfold storeRecoveryPackage at hstore
  split at hstore
  · cases hstore
  case isFalse hsize =>
    split at hstore
    · cases hstore
    case isFalse hclaimable =>
      split at hstore
      · cases hstore
      case isFalse htaken =>
        cases hstore
        exact ⟨hsize, by simpa using hclaimable,
          Bool.eq_false_of_not_eq_true htaken, rfl⟩

theorem affects_withRecovery {accounts : Table AccountRow.accountId}
    {accountId recoveryIdentifier : Id32} {blob : Bytes}
    (haffects : accounts.affects accountId (claimable recoveryIdentifier) = true) :
    (accounts.modify accountId (claimable recoveryIdentifier)
      (withRecovery recoveryIdentifier blob)
      (accountId_withRecovery recoveryIdentifier blob)).affects accountId
        (claimable recoveryIdentifier) = true := by
  unfold Table.affects at haffects ⊢
  rw [Table.lookup_modify, if_pos rfl]
  cases hlookup : accounts.lookup accountId with
  | none => simp [hlookup] at haffects
  | some account =>
      rw [hlookup, Option.any_some] at haffects
      simp only [Option.map_some, haffects, if_true, Option.any_some]
      simp [claimable, withRecovery]

/-- Only the account's own row changes, and that row does not count. -/
theorem identifierTaken_withRecovery (db : Database)
    (accountId recoveryIdentifier : Id32) (blob : Bytes) :
    identifierTaken accountId recoveryIdentifier
      { db with
        accounts := db.accounts.modify accountId (claimable recoveryIdentifier)
          (withRecovery recoveryIdentifier blob)
          (accountId_withRecovery recoveryIdentifier blob) } =
      identifierTaken accountId recoveryIdentifier db := by
  simp only [identifierTaken, Table.modify, Table.update, List.any_map]
  congr 1
  funext account
  by_cases hown : account.accountId = accountId
  · by_cases hclaimable : claimable recoveryIdentifier account <;>
      simp [hown, hclaimable, withRecovery]
  · simp [hown]

/-- Storing the same package again rewrites the slot with what it holds. -/
theorem storeRecoveryPackage_again {accountId recoveryIdentifier : Id32}
    {blob : Bytes} {db stored : Database}
    (hstore : storeRecoveryPackage accountId recoveryIdentifier blob db =
      (.ok (), stored)) :
    storeRecoveryPackage accountId recoveryIdentifier blob stored =
      (.ok (), stored) := by
  obtain ⟨hsize, haffects, hfree, rfl⟩ := storeRecoveryPackage_eq_ok hstore
  have hsame := Table.update_update db.accounts
    (fun account => account.accountId = accountId &&
      claimable recoveryIdentifier account)
    (withRecovery recoveryIdentifier blob)
    (accountId_withRecovery recoveryIdentifier blob) (fun _ _ => rfl)
  have hunclaimed := identifierTaken_withRecovery db accountId recoveryIdentifier
    blob
  rw [hfree] at hunclaimed
  rw [storeRecoveryPackage, if_neg hsize, affects_withRecovery haffects,
    hunclaimed]
  simp only [Table.modify] at hsame ⊢
  rw [hsame]
  rfl

/-! ## Key packages and groups -/

theorem publishKeyPackage_eq_ok {now : Time} {deviceId packageId : Id16}
    {package : Bytes} {db stored : Database}
    (hpublish : publishKeyPackage now deviceId packageId package db =
      (.ok (), stored)) :
    ¬(package = [] ∨ maxKeyPackageSize < package.length) ∧
      ∃ keyPackages, stored = { db with keyPackages } ∧
        keyPackages.lookup packageId ≠ none := by
  unfold publishKeyPackage at hpublish
  split at hpublish
  · cases hpublish
  case isFalse hsize =>
    refine ⟨hsize, ?_⟩
    split at hpublish
    · cases hpublish
    · split at hpublish
      case h_1 keyPackages hinsert =>
        cases hpublish
        exact ⟨keyPackages, rfl, by simp [Table.lookup_insert? hinsert]⟩
      case h_2 => cases hpublish

/-- A package that is already there is a conflict, whoever published it. -/
theorem publishKeyPackage_again {now : Time} {deviceId packageId : Id16}
    {package : Bytes} {db stored : Database}
    (hpublish : publishKeyPackage now deviceId packageId package db =
      (.ok (), stored)) (later : Time) :
    publishKeyPackage later deviceId packageId package stored =
      (.error .conflict, stored) := by
  obtain ⟨hsize, keyPackages, rfl, htaken⟩ := publishKeyPackage_eq_ok hpublish
  rw [publishKeyPackage, if_neg hsize]
  split
  · rfl
  · have hrefused : keyPackages.insert?
        ⟨packageId, deviceId, package, none, later⟩ = none :=
      Table.insert?_eq_none_iff.mpr htaken
    simp only [hrefused]

theorem insertGroup_eq_ok {db stored : Database} {row : GroupRow}
    (hinsert : db.insertGroup row = .ok stored) :
    db.groups.lookup row.groupId = none ∧
      ∃ groups, stored = { db with groups } ∧
        groups.lookup row.groupId = some row := by
  simp only [Database.insertGroup, Transaction.bind_eq_ok,
    Transaction.pure_eq_ok, Database.insertInto_eq_ok] at hinsert
  obtain ⟨groups, ⟨-, hrows⟩, rfl⟩ := hinsert
  exact ⟨(Table.insert?_eq_some_iff.mp hrows).1, groups, rfl,
    by simp [Table.lookup_insert? hrows]⟩

/-- A group is only created when there was none, and is there afterwards. -/
theorem createGroup_eq_ok {groupId creator : Id16} {accountId : Id32}
    {db stored : Database}
    (hcreate : createGroup groupId creator accountId db = (.ok (), stored)) :
    db.groups.lookup groupId = none ∧
      ∃ groups groupMembers, stored = { db with groups, groupMembers } ∧
        groups.lookup groupId ≠ none := by
  unfold createGroup at hcreate
  rcases transaction_cases db _ with ⟨failure, hfailure⟩ |
    ⟨value, committed, hbody, hcommit⟩
  · rw [hfailure] at hcreate
    cases hcreate
  · rw [hcommit] at hcreate
    cases hcreate
    split at hbody
    · cases hbody
    · simp only [Database.insertMember, Transaction.bind_eq_ok,
        Transaction.pure_eq_ok, Prod.mk.injEq, true_and] at hbody
      obtain ⟨inserted, hgroup, joined, ⟨groupMembers, -, rfl⟩, rfl⟩ := hbody
      obtain ⟨hfree, groups, rfl, hpresent⟩ := insertGroup_eq_ok hgroup
      exact ⟨hfree, groups, groupMembers, rfl, by simp [hpresent]⟩

/-- The group exists, so creating it fails. -/
theorem createGroup_again {groupId creator : Id16} {accountId : Id32}
    {db stored : Database}
    (hcreate : createGroup groupId creator accountId db = (.ok (), stored))
    (otherAccount : Id32) {again : Database} :
    createGroup groupId creator otherAccount stored ≠ (.ok (), again) := by
  obtain ⟨-, groups, groupMembers, rfl, htaken⟩ := createGroup_eq_ok hcreate
  intro hagain
  exact htaken (createGroup_eq_ok hagain).1

/-! ## Requests -/

theorem andThen_eq_ok {α β : Type} {outcome : Except ApiError α × Database}
    {next : α → Database → Except ApiError β × Database} {value : β}
    {stored : Database} :
    andThen outcome next = (.ok value, stored) ↔
      ∃ intermediate db, outcome = (.ok intermediate, db) ∧
        next intermediate db = (.ok value, stored) := by
  obtain ⟨failure | intermediate, db⟩ := outcome <;> simp [andThen]

theorem reading_eq_ok {α β : Type} {result : Except ApiError α} {db : Database}
    {next : α → Except ApiError β × Database} {value : β} {stored : Database} :
    reading result db next = (.ok value, stored) ↔
      ∃ intermediate, result = .ok intermediate ∧
        next intermediate = (.ok value, stored) := by
  cases result <;> simp [reading]

/-- The fields an operation octet announces are those of its request. -/
theorem operation_of_fields {operation : UInt8} {request : UploadRequest}
    {input unread : Bytes}
    (hfields : UploadRequest.fields operation input = .ok (request, unread)) :
    request.operation = operation := by
  unfold UploadRequest.fields at hfields
  split at hfields <;>
    simp only [ByteReader.bind_eq_ok, ByteReader.pure_eq_ok,
      ByteReader.throw_eq_ok, Prod.mk.injEq] at hfields
  · obtain ⟨_, _, -, _, _, -, _, _, -, _, _, -, _, _, -, rfl, -⟩ := hfields
    rfl
  · obtain ⟨_, _, -, _, _, -, rfl, -⟩ := hfields
    rfl
  · obtain ⟨_, _, -, _, _, -, rfl, -⟩ := hfields
    rfl
  · obtain ⟨_, _, -, _, _, -, _, _, -, _, _, -, _, _, -, _, _, -, _, _, -, rfl, -⟩ :=
      hfields
    rfl
  · obtain ⟨_, _, -, _, _, -, _, _, -, _, _, -, rfl, -⟩ := hfields
    rfl
  · obtain ⟨_, _, -, _, _, -, rfl, -⟩ := hfields
    rfl

theorem operation_of_reader {request : UploadRequest} {input : Bytes}
    (hread : decodeWith UploadRequest.reader input = .ok request) :
    input.head? = some request.operation := by
  obtain ⟨unread, hreader⟩ := ByteReader.decodeWith_eq_ok.mp hread
  simp only [UploadRequest.reader, ByteReader.bind_eq_ok] at hreader
  obtain ⟨operation, body, hoctet, hfields⟩ := hreader
  rw [operation_of_fields hfields, ByteReader.byte_eq_ok.mp hoctet]
  rfl

/-- The operations whose redelivery is recognised. -/
def Recognised (operation : UInt8) : Prop :=
  operation = 1 ∨ operation = 5 ∨ operation = 6

/-- An upload that was carried out and is delivered again: it succeeds without
a change exactly for the recognised operations. -/
theorem performUpload_again {crypto : Crypto} {now later : Time}
    {clientMessageId author : Id16} {request : UploadRequest}
    {db stored : Database} {encoded : Bytes}
    (hmembership : request.operation ≠ 4)
    (hperform : performUpload crypto now clientMessageId author request db =
      (.ok encoded, stored)) :
    stored.accessSessions = db.accessSessions ∧
      ((∃ again, performUpload crypto later clientMessageId author request stored =
          (.ok again, stored)) ↔ Recognised request.operation) := by
  cases request with
  | event groupId eventId eventKind correlationId ciphertext =>
      obtain ⟨accepted, _, hupload, hanswer⟩ := andThen_eq_ok.mp hperform
      cases hanswer
      refine ⟨(uploadEvent_eq_ok hupload).2.1, iff_of_true ?_ (.inl rfl)⟩
      exact ⟨_, andThen_eq_ok.mpr
        ⟨_, _, uploadEvent_again hupload later, rfl⟩⟩
  | keyPackage packageId package =>
      obtain ⟨_, _, hpublish, hanswer⟩ := andThen_eq_ok.mp hperform
      cases hanswer
      have hagain := publishKeyPackage_again hpublish later
      obtain ⟨-, keyPackages, rfl, -⟩ := publishKeyPackage_eq_ok hpublish
      refine ⟨rfl, iff_of_false ?_ (by simp [Recognised, UploadRequest.operation])⟩
      rintro ⟨again, hrepeat⟩
      obtain ⟨_, _, hpublished, -⟩ := andThen_eq_ok.mp hrepeat
      rw [hagain] at hpublished
      cases hpublished
  | group groupId =>
      obtain ⟨accountId, haccount, hperform⟩ := reading_eq_ok.mp hperform
      obtain ⟨_, _, hcreate, hanswer⟩ := andThen_eq_ok.mp hperform
      cases hanswer
      refine ⟨?_, iff_of_false ?_ (by simp [Recognised, UploadRequest.operation])⟩
      · obtain ⟨-, groups, groupMembers, rfl, -⟩ := createGroup_eq_ok hcreate
        rfl
      · rintro ⟨again, hrepeat⟩
        obtain ⟨otherAccount, -, hrepeat⟩ := reading_eq_ok.mp hrepeat
        obtain ⟨_, _, hcreated, -⟩ := andThen_eq_ok.mp hrepeat
        exact createGroup_again hcreate otherAccount hcreated
  | membership => exact absurd rfl hmembership
  | welcome target group welcomeId welcome =>
      obtain ⟨_, _, hupload, hanswer⟩ := andThen_eq_ok.mp hperform
      cases hanswer
      have hagain := uploadWelcome_again hupload later
      obtain ⟨-, -, -, welcomeMailbox, rfl, -⟩ := uploadWelcome_eq_ok hupload
      refine ⟨rfl, iff_of_true ?_ (.inr (.inl rfl))⟩
      exact ⟨_, andThen_eq_ok.mpr ⟨_, _, hagain, rfl⟩⟩
  | recovery recoveryIdentifier blob =>
      obtain ⟨accountId, haccount, hperform⟩ := reading_eq_ok.mp hperform
      obtain ⟨_, _, hstore, hanswer⟩ := andThen_eq_ok.mp hperform
      cases hanswer
      have hagain := storeRecoveryPackage_again hstore
      obtain ⟨-, -, -, rfl⟩ := storeRecoveryPackage_eq_ok hstore
      refine ⟨rfl, iff_of_true ?_ (.inr (.inr rfl))⟩
      exact ⟨_, reading_eq_ok.mpr
        ⟨accountId, haccount, andThen_eq_ok.mpr ⟨_, _, hagain, rfl⟩⟩⟩

/-! ## Frames -/

theorem uploadEnvelope_eq_ok {crypto : Crypto} {now : Time}
    {clientMessageId : Id16} {body encoded : Bytes} {db stored : Database} :
    uploadEnvelope crypto now clientMessageId body db = (.ok encoded, stored) ↔
      ∃ token unread author request answer,
        Body.array 32 body = .ok (token, unread) ∧
        authenticateAccess crypto now token db = .ok author ∧
        decodeWith UploadRequest.reader unread = .ok request ∧
        performUpload crypto now clientMessageId author request db =
          (.ok answer, stored) ∧
        encoded = request.operation :: answer := by
  simp only [uploadEnvelope, authenticated, reading_eq_ok, andThen_eq_ok,
    Prod.exists, Prod.mk.injEq, Except.ok.injEq]
  constructor
  · rintro ⟨token, unread, htoken, author, hauthor, request, hrequest, answer, _,
      hperform, rfl, rfl⟩
    exact ⟨token, unread, author, request, answer, htoken, hauthor, hrequest,
      hperform, rfl⟩
  · rintro ⟨token, unread, author, request, answer, htoken, hauthor, hrequest,
      hperform, rfl⟩
    exact ⟨token, unread, htoken, author, hauthor, request, hrequest, answer, _,
      hperform, rfl, rfl⟩

theorem dispatch_upload {crypto : Crypto} {moment : Moment}
    {frame : TransportFrame} {db stored : Database}
    (hkind : frame.kind = .uploadEnvelope) :
    (∃ response, dispatch crypto moment frame db = (.ok response, stored)) ↔
      ∃ encoded, uploadEnvelope crypto moment.now frame.clientMessageId frame.body
        db = (.ok encoded, stored) := by
  simp only [dispatch, route, hkind, andThen_eq_ok, Prod.mk.injEq]
  constructor
  · rintro ⟨response, encoded, _, hupload, -, rfl⟩
    exact ⟨encoded, hupload⟩
  · rintro ⟨encoded, hupload⟩
    exact ⟨_, encoded, stored, hupload, rfl, rfl⟩

theorem authenticateAccess_eq_ok {crypto : Crypto} {now : Time} {token : Id32}
    {db : Database} {deviceId : Id16}
    (hauthenticated : authenticateAccess crypto now token db = .ok deviceId) :
    (db.accessSessions.lookup (tokenHash crypto "access" token)).map
      AccessRow.deviceId = some deviceId := by
  unfold authenticateAccess at hauthenticated
  split at hauthenticated
  case h_1 => cases hauthenticated
  case h_2 session hsession =>
    split at hauthenticated
    · cases hauthenticated
      rw [hsession, Option.map_some]
    · cases hauthenticated

/-- The frame's access token opens a live session. -/
def TokenValid (crypto : Crypto) (now : Time) (frame : TransportFrame)
    (db : Database) : Prop :=
  ∃ token unread deviceId, Body.array 32 frame.body = .ok (token, unread) ∧
    authenticateAccess crypto now token db = .ok deviceId

/-- An upload other than a membership operation that was carried out and is
delivered again while its token is valid succeeds without a change exactly when
it uploads an event, a Welcome or a recovery package. -/
theorem redelivery_tolerated_iff (crypto : Crypto) (first second : Moment)
    (frame response : TransportFrame) (operation : UInt8) (db stored : Database)
    (hkind : frame.kind = .uploadEnvelope)
    (hoperation : frame.body[32]? = some operation)
    (hscope : operation ∈ [1, 2, 3, 5, 6])
    (hfirst : dispatch crypto first frame db = (.ok response, stored))
    (hvalid : TokenValid crypto second.now frame stored) :
    (∃ again, dispatch crypto second frame stored = (.ok again, stored)) ↔
      Recognised operation := by
  obtain ⟨encoded, hupload⟩ := (dispatch_upload hkind).mp ⟨response, hfirst⟩
  obtain ⟨token, unread, author, request, answer, htoken, hauthor, hrequest,
    hperform, -⟩ := uploadEnvelope_eq_ok.mp hupload
  have hoctet : request.operation = operation := by
    have hbody := ByteReader.array_eq_ok.mp htoken
    have hhead := operation_of_reader hrequest
    rw [hbody, List.getElem?_append_right (by simp)] at hoperation
    simpa [← List.head?_eq_getElem?, hhead] using hoperation
  have hmembership : request.operation ≠ 4 := by
    rw [hoctet]
    rintro rfl
    simp at hscope
  obtain ⟨hsessions, hagain⟩ := performUpload_again hmembership hperform
  obtain ⟨sameToken, sameUnread, sameAuthor, hsame, hlive⟩ := hvalid
  rw [htoken] at hsame
  cases hsame
  have hdevice : sameAuthor = author := by
    have hbefore := authenticateAccess_eq_ok hauthor
    have hafter := authenticateAccess_eq_ok hlive
    rw [hsessions, hbefore] at hafter
    exact (Option.some.inj hafter).symm
  subst hdevice
  rw [dispatch_upload hkind, ← hoctet, ← hagain]
  constructor
  · rintro ⟨_, hrepeat⟩
    obtain ⟨_, _, _, _, again, hsame, hsameAuthor, hsameRequest, hrepeat, -⟩ :=
      uploadEnvelope_eq_ok.mp hrepeat
    rw [htoken] at hsame
    cases hsame
    rw [hlive] at hsameAuthor
    cases hsameAuthor
    rw [hrequest] at hsameRequest
    cases hsameRequest
    exact ⟨again, hrepeat⟩
  · rintro ⟨again, hrepeat⟩
    exact ⟨_, uploadEnvelope_eq_ok.mpr ⟨token, unread, sameAuthor, request, again,
      htoken, hlive, hrequest, hrepeat, rfl⟩⟩

/-- The SHA-256 digest of the session hash input for the all-zero access
token. -/
def zeroTokenHash : Id32 :=
  ⟨[211, 204, 123, 239, 148, 235, 149, 197, 231, 16, 77, 145, 125, 238, 201,
      70, 175, 251, 135, 123, 116, 14, 211, 110, 116, 58, 151, 1, 80, 143,
      114, 189],
    rfl⟩

/-- The digest under which the all-zero refresh token is stored. -/
def zeroRefreshHash : Id32 :=
  ⟨[216, 84, 191, 30, 186, 228, 27, 162, 94, 54, 72, 86, 102, 226, 60, 170, 20,
      47, 8, 119, 68, 35, 245, 2, 103, 64, 174, 169, 118, 214, 244, 102],
    rfl⟩

/-- Hashing and signatures on the inputs of the sample requests, which hash
nothing but the access token and verify nothing. -/
def sampleCrypto : Crypto where
  sha256 _ := zeroTokenHash
  signatures := SignatureScheme.neutral

/-- One account with one device that is signed in and has founded a group. -/
def sampleServer : Database :=
  { Database.migrated with
    accounts := ⟨[⟨FixedBytes.fill 32 1, FixedBytes.fill 32 2, none, none⟩],
      by simp⟩
    devices := ⟨[⟨FixedBytes.fill 16 3, FixedBytes.fill 32 1,
      FixedBytes.fill 32 4, none⟩], by simp⟩
    accessSessions := ⟨[⟨zeroTokenHash, FixedBytes.fill 16 3, 900000000⟩],
      by simp⟩
    groups := ⟨[⟨FixedBytes.fill 16 5, FixedBytes.fill 16 3⟩], by simp⟩
    groupMembers := ⟨[⟨FixedBytes.fill 16 5, FixedBytes.fill 16 3,
      FixedBytes.fill 32 1, 2, none⟩], by simp⟩ }

def sampleMoment : Moment where
  now := 0
  randomId := FixedBytes.fill 16 6
  firstRandom := FixedBytes.fill 32 7
  secondRandom := FixedBytes.fill 32 8

def sampleUpload (body : Bytes) : TransportFrame where
  version := 1
  kind := .uploadEnvelope
  clientMessageId := FixedBytes.fill 16 9
  ttlSeconds := 60
  body := List.replicate 32 0 ++ body

/-- An event for the group. -/
def sampleEvent : TransportFrame :=
  sampleUpload (1 :: List.replicate 16 5 ++ List.replicate 16 10 ++
    [0, 1, 0, 42])

theorem event_redelivery_tolerated :
    ∃ again, dispatch sampleCrypto sampleMoment sampleEvent
      (dispatch sampleCrypto sampleMoment sampleEvent sampleServer).2 =
        (.ok again,
          (dispatch sampleCrypto sampleMoment sampleEvent sampleServer).2) :=
  (redelivery_tolerated_iff sampleCrypto sampleMoment sampleMoment sampleEvent
    ⟨1, .uploadAccepted, FixedBytes.fill 16 9, 0, [1, 0, 0, 0, 0, 0, 0, 0, 1, 0]⟩
    1 sampleServer _ rfl rfl (by simp) (by decide +kernel)
    ⟨FixedBytes.fill 32 0, _, FixedBytes.fill 16 3, rfl, by decide +kernel⟩).mpr
    (.inl rfl)

/-- A key package that was stored and is delivered again is refused. -/
theorem key_package_redelivery_refused :
    (dispatch sampleCrypto sampleMoment
      (sampleUpload (2 :: List.replicate 16 11 ++ [42])) sampleServer).1.isOk =
        true ∧
      TokenValid sampleCrypto sampleMoment.now
        (sampleUpload (2 :: List.replicate 16 11 ++ [42]))
        (dispatch sampleCrypto sampleMoment
          (sampleUpload (2 :: List.replicate 16 11 ++ [42])) sampleServer).2 ∧
      (dispatch sampleCrypto sampleMoment
        (sampleUpload (2 :: List.replicate 16 11 ++ [42]))
        (dispatch sampleCrypto sampleMoment
          (sampleUpload (2 :: List.replicate 16 11 ++ [42])) sampleServer).2).1 =
        .error .conflict := by
  refine ⟨by decide +kernel, ?_, by decide +kernel⟩
  exact ⟨FixedBytes.fill 32 0, _, FixedBytes.fill 16 3, rfl, by decide +kernel⟩

end ResilientMessenger.Redelivery
