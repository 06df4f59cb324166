import ResilientMessenger.Core.StableSort
import ResilientMessenger.Store.Readings

/-!
# Cursors and directories do not go back

The guards of `set_sync_cursor` and `cache_relay_directory` compare as `u64` what the
columns hold as `i64`.  The columns' `CHECK` refuses the negative images of values from
2^63 on, so all that is stored compares the same in both types.  Over a whole run, what
is stored is then what was accepted last, and the highest that was accepted.
-/

namespace ResilientMessenger.Cursors

open ResilientMessenger.ByteCodec
open ResilientMessenger.LocalDatabase
open ResilientMessenger.StoreOperations
open ResilientMessenger.MessageLifecycle
open ResilientMessenger.Transaction
open ResilientMessenger.Runs
open ResilientMessenger.StableSort
open ResilientMessenger.Readings
open ResilientMessenger.Acknowledgements (opened sampleKey)

/-! ## What a run accepts -/

/-- The cursor an accepted call sets for the scope. -/
def acceptedCursor (scope : Id16) (core : MessengerCore) : Operation → Option UInt64
  | .setSyncCursor target cursor =>
      if target = scope ∧ (setSyncCursor target cursor core.db).1 = .ok () then
        some cursor
      else none
  | _ => none

/-- The directory an accepted call caches. -/
def acceptedDirectory (core : MessengerCore) : Operation → Option CachedRelayDirectory
  | .cacheRelayDirectory directory =>
      if (cacheRelayDirectory directory core.db).1 = .ok () then some directory
      else none
  | _ => none

/-- The cursors accepted for the scope in a run from an empty store. -/
def acceptedCursors (aead : Aead) (key : Key) (operations : List Operation)
    (scope : Id16) : List UInt64 :=
  picked (step aead) (acceptedCursor scope) (opened key) operations

def acceptedDirectories (aead : Aead) (key : Key) (operations : List Operation) :
    List CachedRelayDirectory :=
  picked (step aead) acceptedDirectory (opened key) operations

/-- The last entry ranks highest. -/
def LastHighest {α : Type} (rank : α → UInt64) (entries : List α) : Prop :=
  ∀ last ∈ entries.getLast?, ∀ entry ∈ entries, rank entry ≤ rank last

theorem lastHighest_concat {α : Type} {rank : α → UInt64} {entries : List α} {entry : α}
    (hhighest : LastHighest rank entries)
    (hhigher : ∀ last ∈ entries.getLast?, rank last ≤ rank entry) :
    LastHighest rank (entries ++ [entry]) := by
  intro last hlast other hother
  rw [List.getLast?_concat, Option.mem_some] at hlast
  subst hlast
  rcases List.mem_append.mp hother with hearlier | hself
  · cases hbefore : entries.getLast? with
    | none =>
        rw [List.getLast?_eq_none_iff.mp hbefore] at hearlier
        cases hearlier
    | some before =>
        exact UInt64.le_trans (hhighest before hbefore other hearlier)
          (hhigher before hbefore)
  · rw [List.mem_singleton.mp hself]
    exact UInt64.le_refl _

/-! ## Casts -/

theorem asI64_of_nonneg {value : UInt64} (hnonneg : ¬asI64 value < 0) :
    asI64 value = value.toNat ∧ value.toNat < 2 ^ 63 := by
  have hbound := value.toNat_lt
  unfold asI64 at hnonneg ⊢
  split
  · exact ⟨rfl, by assumption⟩
  · rw [if_neg (by assumption)] at hnonneg
    omega

theorem asU64_toNat (value : UInt64) : asU64 (value.toNat : ℤ) = value.toNat := by
  have hbound := value.toNat_lt
  unfold asU64
  omega

/-! ## The two calls -/

/-- The row a directory is stored in. -/
def directoryRow (directory : CachedRelayDirectory) : DirectoryRow where
  version := directory.version.toNat
  signedDirectory := directory.signedDirectory
  expiresAtMs := directory.expiresAtMs

/-- A cursor is refused, or it is no lower than the stored one and replaces it. -/
theorem setSyncCursor_cases (scope : Id16) (cursor : UInt64) (db : Database) :
    (∃ failure, setSyncCursor scope cursor db = (.error failure, db)) ∨
      cursor.toNat < 2 ^ 63 ∧
      (∀ value ∈ (db.syncCursors.lookup scope).map CursorRow.cursor,
        asU64 value ≤ cursor.toNat) ∧
      ∃ syncCursors, setSyncCursor scope cursor db = (.ok (), { db with syncCursors }) ∧
        ∀ other, (syncCursors.lookup other).map CursorRow.cursor =
          if other = scope then some (cursor.toNat : ℤ)
          else (db.syncCursors.lookup other).map CursorRow.cursor := by
  unfold setSyncCursor
  dsimp only
  split
  case isTrue => exact .inl ⟨_, rfl⟩
  case isFalse hguard =>
    split
    case isTrue => exact .inl ⟨_, rfl⟩
    case isFalse hnonneg =>
      obtain ⟨hcast, hsmall⟩ := asI64_of_nonneg hnonneg
      refine .inr ⟨hsmall, ?_, _, rfl, ?_⟩
      · intro value hvalue
        rw [Option.mem_def] at hvalue
        simpa [hvalue] using hguard
      · intro other
        rw [Table.lookup_upsert, hcast]
        by_cases hother : other = scope
        · rw [if_pos hother, if_pos hother]
          cases db.syncCursors.lookup other <;> rfl
        · rw [if_neg hother, if_neg hother]

/-- A directory is refused, or its version is no lower than any stored one and it is
stored under it. -/
theorem cacheRelayDirectory_cases (directory : CachedRelayDirectory) (db : Database) :
    (∃ failure, cacheRelayDirectory directory db = (.error failure, db)) ∨
      directory.version.toNat < 2 ^ 63 ∧
      (∀ value ∈ (db.relayDirectoryCache.rows.map DirectoryRow.version).max?,
        asU64 value ≤ directory.version.toNat) ∧
      ∃ relayDirectoryCache,
        cacheRelayDirectory directory db = (.ok (), { db with relayDirectoryCache }) ∧
        ∀ version, relayDirectoryCache.lookup version =
          if version = directory.version.toNat then some (directoryRow directory)
          else db.relayDirectoryCache.lookup version := by
  unfold cacheRelayDirectory
  dsimp only
  split
  case isTrue => exact .inl ⟨_, rfl⟩
  case isFalse hguard =>
    split
    case isTrue => exact .inl ⟨_, rfl⟩
    case isFalse hnonneg =>
      obtain ⟨hcast, hsmall⟩ := asI64_of_nonneg hnonneg
      refine .inr ⟨hsmall, ?_, _, rfl, ?_⟩
      · intro value hvalue
        rw [Option.mem_def] at hvalue
        simpa [hvalue] using hguard
      · intro version
        rw [Table.lookup_upsert, hcast]
        by_cases hversion : version = directory.version.toNat
        · rw [if_pos hversion, if_pos hversion]
          cases hfound : db.relayDirectoryCache.lookup version with
          | none => rfl
          | some row =>
              have hkey : row.version = version := Table.key_of_lookup hfound
              simp [directoryRow, hkey, hversion]
        · rw [if_neg hversion, if_neg hversion]

/-! ## Refused calls -/

section Refused

variable {scope : Id16} {cursor : UInt64} {directory : CachedRelayDirectory}
  {db : Database}

theorem setSyncCursor_refused (hrefused : (setSyncCursor scope cursor db).1 ≠ .ok ()) :
    (setSyncCursor scope cursor db).2 = db := by
  rcases setSyncCursor_cases scope cursor db with ⟨failure, hfailure⟩ |
    ⟨-, -, syncCursors, hset, -⟩
  · rw [hfailure]
  · exact absurd (congrArg Prod.fst hset) hrefused

theorem setSyncCursor_accepted (haccepted : (setSyncCursor scope cursor db).1 = .ok ()) :
    cursor.toNat < 2 ^ 63 := by
  rcases setSyncCursor_cases scope cursor db with ⟨failure, hfailure⟩ | ⟨hsmall, -⟩
  · rw [hfailure] at haccepted
    cases haccepted
  · exact hsmall

theorem cacheRelayDirectory_refused
    (hrefused : (cacheRelayDirectory directory db).1 ≠ .ok ()) :
    (cacheRelayDirectory directory db).2 = db := by
  rcases cacheRelayDirectory_cases directory db with ⟨failure, hfailure⟩ |
    ⟨-, -, relayDirectoryCache, hset, -⟩
  · rw [hfailure]
  · exact absurd (congrArg Prod.fst hset) hrefused

theorem cacheRelayDirectory_accepted
    (haccepted : (cacheRelayDirectory directory db).1 = .ok ()) :
    directory.version.toNat < 2 ^ 63 := by
  rcases cacheRelayDirectory_cases directory db with ⟨failure, hfailure⟩ | ⟨hsmall, -⟩
  · rw [hfailure] at haccepted
    cases haccepted
  · exact hsmall

end Refused

/-! ## The newest directory -/

/-- `DESC` sorts by the dual order. -/
def recency (row : DirectoryRow) : ℤᵒᵈ := OrderDual.toDual row.version

def newestFirst (db : Database) : List DirectoryRow :=
  sortBy recency db.relayDirectoryCache.rows

theorem newestDirectory_eq_head (db : Database) :
    newestDirectory db = (newestFirst db).head? := by
  unfold newestDirectory newestFirst
  have hsort : db.relayDirectoryCache.rows.insertionSort
      (fun left right => right.version ≤ left.version) =
        sortBy recency db.relayDirectoryCache.rows :=
    insertionSort_eq_sortBy _ (by intro left right; exact Iff.rfl) _
  rw [hsort]

theorem mem_newestFirst {db : Database} {row : DirectoryRow} :
    row ∈ newestFirst db ↔ row ∈ db.relayDirectoryCache.rows :=
  (perm_sortBy _ _).mem_iff

/-- The one that is read has the highest version of all. -/
theorem newestDirectory_eq_some_iff {db : Database} {row : DirectoryRow} :
    newestDirectory db = some row ↔
      row ∈ db.relayDirectoryCache.rows ∧
        ∀ other ∈ db.relayDirectoryCache.rows, other.version ≤ row.version := by
  rw [newestDirectory_eq_head]
  have hsorted : SortedBy recency (newestFirst db) := sortedBy_sortBy _ _
  cases hrows : newestFirst db with
  | nil =>
      have hnone : row ∉ db.relayDirectoryCache.rows := by
        rw [← mem_newestFirst, hrows]
        exact List.not_mem_nil
      simp [hnone]
  | cons head rows =>
      rw [hrows] at hsorted
      have hhead : head ∈ db.relayDirectoryCache.rows := by
        rw [← mem_newestFirst, hrows]
        exact List.mem_cons_self
      have hhighest : ∀ other ∈ db.relayDirectoryCache.rows,
          other.version ≤ head.version := by
        intro other hother
        rw [← mem_newestFirst, hrows] at hother
        have hbefore : recency head ≤ recency other := key_head_le hsorted hother
        exact hbefore
      rw [List.head?_cons, Option.some.injEq]
      constructor
      · rintro rfl
        exact ⟨hhead, hhighest⟩
      · rintro ⟨hrow, hnewest⟩
        -- versions are the keys of the table
        have hversion : head.version = row.version :=
          le_antisymm (hnewest head hhead) (hhighest row hrow)
        have hlookup := Table.mem_rows_iff.mp hhead
        rw [hversion, Table.mem_rows_iff.mp hrow] at hlookup
        exact (Option.some.inj hlookup).symm

theorem exists_newestDirectory {db : Database} {row : DirectoryRow}
    (hrow : row ∈ db.relayDirectoryCache.rows) :
    ∃ newest, newestDirectory db = some newest := by
  rw [newestDirectory_eq_head]
  rw [← mem_newestFirst] at hrow
  cases hrows : newestFirst db with
  | nil =>
      rw [hrows] at hrow
      cases hrow
  | cons head rows => exact ⟨head, rfl⟩

/-- A directory stored over others of no higher version is the newest. -/
theorem newestDirectory_cached {db next : Database} {directory : CachedRelayDirectory}
    (hlookup : ∀ version, next.relayDirectoryCache.lookup version =
      if version = directory.version.toNat then some (directoryRow directory)
      else db.relayDirectoryCache.lookup version)
    (hbelow : ∀ row ∈ db.relayDirectoryCache.rows,
      row.version ≤ directory.version.toNat) :
    newestDirectory next = some (directoryRow directory) := by
  have hself := hlookup directory.version.toNat
  rw [if_pos rfl] at hself
  rw [newestDirectory_eq_some_iff]
  refine ⟨Table.mem_of_lookup hself, ?_⟩
  intro other hother
  have hfound := Table.mem_rows_iff.mp hother
  rw [hlookup] at hfound
  split at hfound
  case isTrue hversion => exact hversion.le
  case isFalse => exact hbelow other (Table.mem_of_lookup hfound)

/-- `SELECT MAX(version)`. -/
theorem max?_of_newestDirectory {db : Database} {row : DirectoryRow}
    (hnewest : newestDirectory db = some row) :
    (db.relayDirectoryCache.rows.map DirectoryRow.version).max? =
      some row.version := by
  obtain ⟨hrow, hhighest⟩ := newestDirectory_eq_some_iff.mp hnewest
  rw [List.max?_eq_some_iff]
  refine ⟨List.mem_map_of_mem hrow, ?_⟩
  intro version hversion
  obtain ⟨other, hother, rfl⟩ := List.mem_map.mp hversion
  exact hhighest other hother

/-! ## The invariant -/

/-- What is stored is what was accepted last, and that is the highest. -/
structure Recorded (cursors : Id16 → List UInt64)
    (directories : List CachedRelayDirectory) (db : Database) : Prop where
  cursor : ∀ scope, (db.syncCursors.lookup scope).map CursorRow.cursor =
    (cursors scope).getLast?.map fun cursor => (cursor.toNat : ℤ)
  highestCursor : ∀ scope, LastHighest id (cursors scope)
  directory : newestDirectory db = directories.getLast?.map directoryRow
  highestVersion : LastHighest CachedRelayDirectory.version directories

section Recorded

variable {cursors : Id16 → List UInt64} {directories : List CachedRelayDirectory}
  {db : Database}

theorem recorded_cursor (hrecorded : Recorded cursors directories db) (scope : Id16)
    (cursor : UInt64) :
    Recorded (fun other => cursors other ++
        (if scope = other ∧ (setSyncCursor scope cursor db).1 = .ok () then
          some cursor else none).toList)
      directories (setSyncCursor scope cursor db).2 := by
  rcases setSyncCursor_cases scope cursor db with ⟨failure, hfailure⟩ |
    ⟨-, hguard, syncCursors, hset, hlookup⟩
  · simpa [hfailure] using hrecorded
  · have hhigher : ∀ last ∈ (cursors scope).getLast?, last ≤ cursor := by
      intro last hlast
      have hstored := hrecorded.cursor scope
      rw [Option.mem_def.mp hlast] at hstored
      have hcompared := hguard last.toNat hstored
      rwa [asU64_toNat, ← UInt64.le_iff_toNat_le] at hcompared
    rw [hset]
    refine ⟨?_, ?_, hrecorded.directory, hrecorded.highestVersion⟩
    · intro other
      rw [hlookup other]
      by_cases hother : other = scope
      · simp [hother]
      · simp [hother, Ne.symm hother, hrecorded.cursor other]
    · intro other
      by_cases hother : scope = other
      · subst hother
        simpa using lastHighest_concat (hrecorded.highestCursor scope) hhigher
      · simpa [hother] using hrecorded.highestCursor other

theorem recorded_directory (hrecorded : Recorded cursors directories db)
    (directory : CachedRelayDirectory) :
    Recorded cursors (directories ++
        (if (cacheRelayDirectory directory db).1 = .ok () then
          some directory else none).toList)
      (cacheRelayDirectory directory db).2 := by
  rcases cacheRelayDirectory_cases directory db with ⟨failure, hfailure⟩ |
    ⟨-, hguard, relayDirectoryCache, hset, hlookup⟩
  · simpa [hfailure] using hrecorded
  · have hhigher : ∀ last ∈ directories.getLast?, last.version ≤ directory.version := by
      intro last hlast
      have hstored := hrecorded.directory
      rw [Option.mem_def.mp hlast] at hstored
      have hcompared := hguard last.version.toNat (max?_of_newestDirectory hstored)
      rwa [asU64_toNat, ← UInt64.le_iff_toNat_le] at hcompared
    have hbelow : ∀ row ∈ db.relayDirectoryCache.rows,
        row.version ≤ directory.version.toNat := by
      intro row hrow
      obtain ⟨newest, hnewest⟩ := exists_newestDirectory hrow
      have hstored := hrecorded.directory
      rw [hnewest] at hstored
      obtain ⟨last, hlast, rfl⟩ := Option.map_eq_some_iff.mp hstored.symm
      calc row.version ≤ last.version.toNat :=
            (newestDirectory_eq_some_iff.mp hnewest).2 row hrow
        _ ≤ directory.version.toNat :=
            Int.ofNat_le.mpr (UInt64.le_iff_toNat_le.mp (hhigher last hlast))
    rw [hset]
    refine ⟨hrecorded.cursor, hrecorded.highestCursor, ?_, ?_⟩
    · simp only [if_true, Option.toList_some, List.getLast?_concat, Option.map_some]
      exact newestDirectory_cached hlookup hbelow
    · simpa using lastHighest_concat hrecorded.highestVersion hhigher

end Recorded

/-! ## All other calls -/

/-- The tables this module is about. -/
def caches (db : Database) : Table CursorRow.scope × Table DirectoryRow.version :=
  (db.syncCursors, db.relayDirectoryCache)

theorem caches_insertOrIgnoreConversation (db : Database) (row : ConversationRow) :
    caches (db.insertOrIgnoreConversation row) = caches db := by
  unfold Database.insertOrIgnoreConversation
  split <;> rfl

theorem caches_insertOrIgnoreInbox (db : Database) (row : InboxRow) :
    caches (db.insertOrIgnoreInbox row).2 = caches db := by
  unfold Database.insertOrIgnoreInbox
  split <;> rfl

theorem caches_insertCreated (id conversationId : Id16) (encrypted : Bytes) (now : ℤ)
    (db : Database) :
    caches (insertCreated id conversationId encrypted now db).2 = caches db := by
  rcases insertCreated_frame id conversationId encrypted now db with
    ⟨failure, hfailure⟩ | ⟨_, _, _, _, -, hinserted⟩
  · rw [hfailure]
  · rw [hinserted]
    rfl

theorem caches_markUploadAccepted (id : Id16) (db : Database) :
    caches (markUploadAccepted id db).2 = caches db := by
  apply transaction_keeps (P := fun after => caches after = caches db) rfl
  intro value committed hbody
  dsimp only at hbody
  split at hbody
  · cases hbody
  · cases hbody
    rfl

theorem caches_cancelPendingMessage (id : Id16) (db : Database) :
    caches (cancelPendingMessage id db).2 = caches db := by
  apply transaction_keeps (P := fun after => caches after = caches db) rfl
  intro value committed hbody
  split at hbody
  · cases hbody
    rfl
  · cases hbody

theorem caches_advanceMessageStatus (id : Id16) (status : MessageStatus)
    (db : Database) : caches (advanceMessageStatus id status db).2 = caches db := by
  unfold advanceMessageStatus
  dsimp only
  split_ifs <;> rfl

theorem caches_ingestLoop (events : List (IncomingEvent × ℤ)) (inserted : ℕ)
    (db : Database) : caches (ingestLoop events inserted db).2 = caches db := by
  induction events generalizing inserted db with
  | nil => rfl
  | cons entry events ih =>
      exact (ih _ _).trans (caches_insertOrIgnoreInbox db (entry.1.row entry.2))

theorem caches_rotateMasterKey (aead : Aead) (nonces : Id16 → Nonce) (newKey : Bytes)
    (newVersion : UInt32) (core : MessengerCore) :
    caches (rotateMasterKey aead nonces newKey newVersion core).2.db =
      caches core.db := by
  rcases rotateMasterKey_outcome aead nonces newKey newVersion core with
    ⟨failure, hfailure⟩ | ⟨replacement, reencrypted, hloop, hrotated⟩
  · rw [hfailure]
  · rw [hrotated]
    change caches reencrypted = caches core.db
    apply reencrypt_keeps (P := fun current => caches current = caches core.db) hloop rfl
    intro row _ body current hcurrent
    exact hcurrent

/-- No other call touches the two tables. -/
theorem caches_step (aead : Aead) (core : MessengerCore) {operation : Operation}
    (hcursor : ∀ scope cursor, operation ≠ .setSyncCursor scope cursor)
    (hdirectory : ∀ directory, operation ≠ .cacheRelayDirectory directory)
    (hunwiped : operation ≠ .wipeLocalAccount) :
    caches (step aead core operation).db = caches core.db := by
  cases operation with
  | createMessage id nonce now conversationId plaintext =>
      change caches (createMessage aead id nonce now conversationId plaintext core).2.db =
        caches core.db
      unfold createMessage
      cases encrypt aead core.masterKey nonce (utf8 plaintext) with
      | error failure => rfl
      | ok encrypted => exact caches_insertCreated id conversationId encrypted now core.db
  | markUploadAccepted id => exact caches_markUploadAccepted id core.db
  | retryMessage now id =>
      change caches (retryMessage now id core.db).2 = caches core.db
      unfold retryMessage
      split
      · rfl
      · split <;> rfl
  | cancelPendingMessage id => exact caches_cancelPendingMessage id core.db
  | applyDeliveryReceipt id => exact caches_advanceMessageStatus id .delivered core.db
  | applyReadReceipt id => exact caches_advanceMessageStatus id .read core.db
  | createGroup now groupId =>
      exact caches_insertOrIgnoreConversation core.db ⟨groupId, now⟩
  | addMember groupId deviceId accountId =>
      change caches (addMember groupId deviceId accountId core.db).2 = caches core.db
      unfold addMember
      split <;> rfl
  | removeMember now groupId deviceId =>
      change caches (removeMember now groupId deviceId core.db).2 = caches core.db
      unfold removeMember
      dsimp only
      split <;> rfl
  | ingestServerEvent now event =>
      exact caches_insertOrIgnoreInbox core.db (event.row now)
  | ingestServerBatch events =>
      change caches (ingestServerBatch events core.db).2 = caches core.db
      unfold ingestServerBatch
      split
      · rfl
      · exact caches_ingestLoop events 0 core.db
  | setSyncCursor scope cursor => exact absurd rfl (hcursor scope cursor)
  | blockAccount now accountId => rfl
  | unblockAccount accountId => rfl
  | setNetworkMode mode => rfl
  | cacheRelayDirectory directory => exact absurd rfl (hdirectory directory)
  | rotateMasterKey nonces newKey newVersion =>
      exact caches_rotateMasterKey aead nonces newKey newVersion core
  | wipeLocalAccount => exact absurd rfl hunwiped

/-! ## Whole runs -/

theorem recorded_congr {cursors : Id16 → List UInt64}
    {directories : List CachedRelayDirectory} {db next : Database}
    (hcaches : caches next = caches db) (hrecorded : Recorded cursors directories db) :
    Recorded cursors directories next := by
  obtain ⟨hcursors, hdirectories⟩ := Prod.mk.inj hcaches
  refine ⟨?_, hrecorded.highestCursor, ?_, hrecorded.highestVersion⟩
  · rw [hcursors]
    exact hrecorded.cursor
  · rw [newestDirectory, hdirectories]
    exact hrecorded.directory

theorem recorded_step (aead : Aead) {cursors : Id16 → List UInt64}
    {directories : List CachedRelayDirectory} {core : MessengerCore}
    {operation : Operation} (hunwiped : operation ≠ .wipeLocalAccount)
    (hrecorded : Recorded cursors directories core.db) :
    Recorded (fun scope => cursors scope ++ (acceptedCursor scope core operation).toList)
      (directories ++ (acceptedDirectory core operation).toList)
      (step aead core operation).db := by
  by_cases hcursor : ∃ scope cursor, operation = .setSyncCursor scope cursor
  · obtain ⟨scope, cursor, rfl⟩ := hcursor
    simp only [acceptedDirectory, Option.toList_none, List.append_nil]
    exact recorded_cursor hrecorded scope cursor
  by_cases hdirectory : ∃ directory, operation = .cacheRelayDirectory directory
  · obtain ⟨directory, rfl⟩ := hdirectory
    simp only [acceptedCursor, Option.toList_none, List.append_nil]
    exact recorded_directory hrecorded directory
  simp only [not_exists] at hcursor hdirectory
  have hcursors : ∀ scope, acceptedCursor scope core operation = none := by
    intro scope
    unfold acceptedCursor
    split
    · exact absurd rfl (hcursor _ _)
    · rfl
  have hdirectories : acceptedDirectory core operation = none := by
    unfold acceptedDirectory
    split
    · exact absurd rfl (hdirectory _)
    · rfl
  simp only [hcursors, hdirectories, Option.toList_none, List.append_nil]
  exact recorded_congr (caches_step aead core hcursor hdirectory hunwiped) hrecorded

theorem recorded_opened : Recorded (fun _ => []) [] Database.initial where
  cursor _ := rfl
  highestCursor _ last hlast := by cases hlast
  directory := rfl
  highestVersion last hlast := by cases hlast

theorem recorded_run (aead : Aead) (key : Key) (operations : List Operation)
    (hunwiped : .wipeLocalAccount ∉ operations) :
    Recorded (acceptedCursors aead key operations)
      (acceptedDirectories aead key operations)
      (run (step aead) (opened key) operations).db := by
  induction operations using List.reverseRecOn with
  | nil => exact recorded_opened
  | append_singleton operations operation ih =>
      simp only [List.mem_append, List.mem_singleton, not_or] at hunwiped
      have hstep := recorded_step aead (Ne.symm hunwiped.2) (ih hunwiped.1)
      rw [run_append]
      unfold acceptedCursors acceptedDirectories
      simp only [picked_concat]
      exact hstep

/-- The calls this module is about. -/
inductive SetsCache : Operation → Prop where
  | cursor (scope : Id16) (cursor : UInt64) : SetsCache (.setSyncCursor scope cursor)
  | directory (directory : CachedRelayDirectory) :
      SetsCache (.cacheRelayDirectory directory)

/-- In every run without a wipe, the cursor of a scope is the one accepted last for it
and the highest accepted; `last_relay_directory` answers the directory accepted last,
whose version is the highest accepted; and a refused call changes nothing, as every call
with a value from 2^63 on is. -/
theorem last_accepted_is_stored (aead : Aead) (key : Key) (operations : List Operation)
    (hunwiped : .wipeLocalAccount ∉ operations) :
    let core := run (step aead) (opened key) operations
    let cursors := acceptedCursors aead key operations
    let directories := acceptedDirectories aead key operations
    (∀ scope, (core.db.syncCursors.lookup scope).map CursorRow.cursor =
        (cursors scope).getLast?.map (fun cursor => (cursor.toNat : ℤ)) ∧
      ∀ last ∈ (cursors scope).getLast?, ∀ cursor ∈ cursors scope, cursor ≤ last) ∧
    lastRelayDirectory core.db = .ok directories.getLast? ∧
    (∀ last ∈ directories.getLast?, ∀ directory ∈ directories,
      directory.version ≤ last.version) ∧
    (∀ operation, SetsCache operation → (perform aead core operation).1 ≠ .ok () →
      step aead core operation = core) ∧
    (∀ scope cursor, 2 ^ 63 ≤ cursor.toNat →
      (perform aead core (.setSyncCursor scope cursor)).1 ≠ .ok ()) ∧
    ∀ directory, 2 ^ 63 ≤ directory.version.toNat →
      (perform aead core (.cacheRelayDirectory directory)).1 ≠ .ok () := by
  intro core cursors directories
  have hrecorded : Recorded cursors directories core.db :=
    recorded_run aead key operations hunwiped
  refine ⟨?_, ?_, hrecorded.highestVersion, ?_, ?_, ?_⟩
  · intro scope
    exact ⟨hrecorded.cursor scope, hrecorded.highestCursor scope⟩
  · rw [lastRelayDirectory, hrecorded.directory, Option.map_map]
    simp only [Function.comp_def, directoryRow, asU64_toNat, UInt64.ofNat_toNat,
      Option.map_id']
  · rintro _ (⟨scope, cursor⟩ | ⟨directory⟩) hrefused
    · have hsame := setSyncCursor_refused hrefused
      simp only [step, perform, MessengerCore.withDatabase, hsame]
    · have hsame := cacheRelayDirectory_refused hrefused
      simp only [step, perform, MessengerCore.withDatabase, hsame]
  · intro scope cursor hlarge haccepted
    exact absurd (setSyncCursor_accepted haccepted) (Nat.not_lt.mpr hlarge)
  · intro directory hlarge haccepted
    exact absurd (cacheRelayDirectory_accepted haccepted) (Nat.not_lt.mpr hlarge)

/-- A scope, with a cursor that goes back and one that is too large, and a directory that
is cached twice. -/
def sampleScope : Id16 := FixedBytes.fill 16 6

def backAndForth : List Operation :=
  [.setSyncCursor sampleScope 5, .setSyncCursor sampleScope 3,
    .setSyncCursor sampleScope 9223372036854775808, .cacheRelayDirectory ⟨2, [1], 10⟩,
    .cacheRelayDirectory ⟨1, [2], 20⟩, .cacheRelayDirectory ⟨2, [3], 30⟩]

theorem back_and_forth_stored :
    let core := run (step Aead.transparent) (opened sampleKey) backAndForth
    (core.db.syncCursors.lookup sampleScope).map CursorRow.cursor = some 5 ∧
      lastRelayDirectory core.db = .ok (some ⟨2, [3], 30⟩) := by
  have hstored := last_accepted_is_stored Aead.transparent sampleKey backAndForth
    (by simp [backAndForth])
  constructor
  · rw [(hstored.1 sampleScope).1]
    decide +kernel
  · rw [hstored.2.1]
    decide +kernel

end ResilientMessenger.Cursors
