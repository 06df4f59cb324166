import Mathlib.Data.List.Infix
import ResilientMessenger.Core.Statements
import ResilientMessenger.Store.Durability

/-!
# Rotations of the master key

`rotate_master_key` statement by statement.  The loop may stop at any row, and
any statement may fail, the commit included; the active key is replaced after
the commit only.  So the key and the database change together or not at all,
and reading under the new key what the loop has written under it gives back what
the old key gave before.
-/

namespace ResilientMessenger.Rotations

open ResilientMessenger.ByteCodec
open ResilientMessenger.LocalDatabase
open ResilientMessenger.StoreOperations
open ResilientMessenger.MessageLifecycle
open ResilientMessenger.Transaction
open ResilientMessenger.Statements
open ResilientMessenger.Durability
open ResilientMessenger.KeyRotation

/-! ## Searching -/

/-- `str::contains`. -/
def contains (text query : String) : Bool := query.toList <:+: text.toList

/-- The loop of `local_search`.  The status is read of matching rows only. -/
def searchLoop (aead : Aead) (toLowercase : String → String) (key : Key)
    (query : String) : List MessageRow → List LocalMessage →
      Except CoreError (List LocalMessage)
  | [], found => .ok found
  | row :: rows, found => do
      let bytes ← decrypt aead key row.bodyCiphertext
      let plaintext ← fromUtf8 bytes
      if contains (toLowercase plaintext) (toLowercase query) then
        let status ← tryFrom row.status
        searchLoop aead toLowercase key query rows <| found ++
          [{ clientMessageId := row.clientMessageId
             conversationId := row.conversationId
             plaintext
             status
             createdAtMs := row.createdAtMs }]
      else searchLoop aead toLowercase key query rows found

/-- `ORDER BY created_at_ms DESC`.  The rows are scanned in the order of their
rowids, and the sorter keeps equal times in the order in which it gets them. -/
def searchRows (db : Database) : List MessageRow :=
  db.messages.rows.insertionSort fun left right =>
    right.createdAtMs ≤ left.createdAtMs

/-- The tables behind `str::to_lowercase` are a parameter: nothing below depends
on them. -/
def localSearch (aead : Aead) (toLowercase : String → String) (query : String)
    (core : MessengerCore) : Except CoreError (List LocalMessage) :=
  if query = "" then .ok []
  else searchLoop aead toLowercase core.masterKey query (searchRows core.db) []

/-! ## The call, statement by statement -/

/-- The loop over the selected rows, with an `UPDATE` for each of them. -/
def reencryptScript (aead : Aead) (active replacement : Key)
    (nonces : Id16 → Nonce) : List MessageRow → Script CoreError Database Unit
  | [] => pure ()
  | row :: rows =>
      match decrypt aead active row.bodyCiphertext with
      | .error failure => .fail failure
      | .ok plaintext =>
          match encrypt aead replacement (nonces row.clientMessageId) plaintext with
          | .error failure => .fail failure
          | .ok reencrypted => do
              Script.write fun db =>
                ((), db.setBody row.clientMessageId reencrypted)
              reencryptScript aead active replacement nonces rows

def rotateScript (aead : Aead) (active replacement : Key) (nonces : Id16 → Nonce)
    (newVersion : UInt32) : Script CoreError Database Unit := do
  let current ← Script.query Database.keyVersion
  if (newVersion.toNat : ℤ) ≠ current + 1 then .fail .invalidTransition
  else do
    let rows ← Script.query fun db => db.messages.rows
    reencryptScript aead active replacement nonces rows
    Script.write fun db => ((), { db with keyVersion := newVersion.toNat })

/-- What a call leaves behind, with the key that is active then. -/
structure Rotation where
  outcome : Outcome CoreError Database Unit
  masterKey : Key

/-- The call on a connection on which one statement may fail. -/
def rotate (aead : Aead) (nonces : Id16 → Nonce) (newKey : Bytes)
    (newVersion : UInt32) (fault : Option ℕ) (connection : Connection Database)
    (active : Key) : Rotation :=
  match FixedBytes.ofBytes? 32 newKey with
  | none => ⟨⟨.error .invalidMasterKey, fault, connection⟩, active⟩
  | some replacement =>
      let outcome := guarded .database
        (rotateScript aead active replacement nonces newVersion) fault connection
      match outcome.result with
      | .error _ => ⟨outcome, active⟩
      | .ok () => ⟨outcome, replacement⟩

theorem denote_reencryptScript (aead : Aead) (active replacement : Key)
    (nonces : Id16 → Nonce) (rows : List MessageRow) (db : Database) :
    (reencryptScript aead active replacement nonces rows).denote db =
      (reencrypt aead active replacement nonces rows db).map fun db => ((), db) := by
  induction rows generalizing db with
  | nil => rfl
  | cons row rows ih =>
      rw [reencryptScript, reencrypt]
      cases decrypt aead active row.bodyCiphertext with
      | error failure => rfl
      | ok plaintext =>
          dsimp only [bind, Except.bind]
          cases encrypt aead replacement (nonces row.clientMessageId) plaintext with
          | error failure => rfl
          | ok reencrypted => exact ih _

/-- The statements compute the body of the transaction. -/
theorem denote_rotateScript (aead : Aead) (active replacement : Key)
    (nonces : Id16 → Nonce) (newVersion : UInt32) (db : Database) :
    (rotateScript aead active replacement nonces newVersion).denote db =
      if (newVersion.toNat : ℤ) ≠ db.keyVersion + 1 then .error .invalidTransition
      else (do
        let db ← reencrypt aead active replacement nonces db.messages.rows db
        pure ((), { db with keyVersion := newVersion.toNat })) := by
  simp only [rotateScript, Script.denote_bind, Script.denote_query]
  split
  · rfl
  · simp only [Script.denote_bind, Script.denote_query, denote_reencryptScript]
    cases reencrypt aead active replacement nonces db.messages.rows db with
    | error failure => rfl
    | ok reencrypted => exact Script.denote_write _ _

/-- Without a failing statement the call is the store's operation. -/
theorem rotate_faultless (aead : Aead) (nonces : Id16 → Nonce) (newKey : Bytes)
    (newVersion : UInt32) (core : MessengerCore) :
    rotate aead nonces newKey newVersion none (.idle core.db) core.masterKey =
      ⟨⟨(rotateMasterKey aead nonces newKey newVersion core).1, none,
          .idle (rotateMasterKey aead nonces newKey newVersion core).2.db⟩,
        (rotateMasterKey aead nonces newKey newVersion core).2.masterKey⟩ := by
  unfold rotate rotateMasterKey
  cases FixedBytes.ofBytes? 32 newKey with
  | none => rfl
  | some replacement =>
      have hdenote : (rotateScript aead core.masterKey replacement nonces
          newVersion).denote = _ :=
        funext (denote_rotateScript aead core.masterKey replacement nonces newVersion)
      simp only [guarded_faultless, hdenote]
      rcases transaction_cases core.db _ with ⟨failure, hfailure⟩ |
        ⟨value, committed, hbody, hcommit⟩
      · rw [hfailure]
      · rw [hcommit]

/-! ## What the call amounts to -/

section Outcomes

variable {aead : Aead} {nonces : Id16 → Nonce} {newKey : Bytes}
variable {newVersion : UInt32} {fault : Option ℕ}
variable {connection : Connection Database} {active : Key}

/-- A call that succeeds has re-encrypted every row and committed. -/
theorem rotate_eq_ok
    (hok : (rotate aead nonces newKey newVersion fault connection
      active).outcome.result = .ok ()) :
    ∃ replacement reencrypted,
      FixedBytes.ofBytes? 32 newKey = some replacement ∧
      connection.working = none ∧
      (newVersion.toNat : ℤ) = connection.committed.keyVersion + 1 ∧
      reencrypt aead active replacement nonces connection.committed.messages.rows
        connection.committed = .ok reencrypted ∧
      (rotate aead nonces newKey newVersion fault connection
        active).outcome.connection =
          .idle { reencrypted with keyVersion := newVersion.toNat } ∧
      (rotate aead nonces newKey newVersion fault connection active).masterKey =
        replacement := by
  unfold rotate at hok ⊢
  cases hkey : FixedBytes.ofBytes? 32 newKey with
  | none =>
      rw [hkey] at hok
      cases hok
  | some replacement =>
      rw [hkey] at hok
      dsimp only at hok ⊢
      cases hresult : (guarded .database (rotateScript aead active replacement nonces
          newVersion) fault connection).result with
      | error failure =>
          rw [hresult] at hok
          exact absurd (hresult.symm.trans hok) (by simp)
      | ok value =>
          obtain ⟨hidle, state, hdenote, hconnection⟩ := guarded_eq_ok hresult
          rw [denote_rotateScript] at hdenote
          split at hdenote
          · cases hdenote
          case isFalse hversion =>
            simp only [bind_eq_ok, pure_eq_ok, Prod.mk.injEq] at hdenote
            obtain ⟨reencrypted, hloop, -, rfl⟩ := hdenote
            exact ⟨replacement, reencrypted, rfl, hidle, not_not.mp hversion, hloop,
              hconnection, rfl⟩

/-- The same of the store's operation. -/
theorem rotateMasterKey_eq_ok {core : MessengerCore}
    (hok : (rotateMasterKey aead nonces newKey newVersion core).1 = .ok ()) :
    ∃ replacement reencrypted,
      FixedBytes.ofBytes? 32 newKey = some replacement ∧
      (newVersion.toNat : ℤ) = core.db.keyVersion + 1 ∧
      reencrypt aead core.masterKey replacement nonces core.db.messages.rows core.db =
        .ok reencrypted ∧
      (rotateMasterKey aead nonces newKey newVersion core).2.masterKey =
        replacement := by
  have hrotate := rotate_faultless aead nonces newKey newVersion core
  have hrotated : (rotate aead nonces newKey newVersion none (.idle core.db)
      core.masterKey).outcome.result = .ok () := by
    rw [hrotate]
    exact hok
  obtain ⟨replacement, reencrypted, hkey, -, hversion, hloop, -, hactive⟩ :=
    rotate_eq_ok hrotated
  rw [hrotate] at hactive
  exact ⟨replacement, reencrypted, hkey, hversion, hloop, hactive⟩

/-- A call that returns an error leaves the connection and the key as they
were. -/
theorem rotate_of_error {failure : CoreError}
    (hrefused : (rotate aead nonces newKey newVersion fault connection
      active).outcome.result = .error failure) :
    (rotate aead nonces newKey newVersion fault connection
        active).outcome.connection = connection ∧
      (rotate aead nonces newKey newVersion fault connection active).masterKey =
        active := by
  unfold rotate at hrefused ⊢
  cases hkey : FixedBytes.ofBytes? 32 newKey with
  | none => exact ⟨rfl, rfl⟩
  | some replacement =>
      rw [hkey] at hrefused
      dsimp only at hrefused ⊢
      cases hresult : (guarded .database (rotateScript aead active replacement nonces
          newVersion) fault connection).result with
      | error other => exact ⟨guarded_of_error hresult, rfl⟩
      | ok value =>
          rw [hresult] at hrefused
          exact absurd (hresult.symm.trans hrefused) (by simp)

/-- A statement that fails is reported. -/
theorem rotate_fired {index : ℕ}
    (hfired : (rotate aead nonces newKey newVersion (some index) connection
      active).outcome.fault = none) :
    ∃ failure, (rotate aead nonces newKey newVersion (some index) connection
      active).outcome.result = .error failure := by
  cases hkey : FixedBytes.ofBytes? 32 newKey with
  | none =>
      refine ⟨.invalidMasterKey, ?_⟩
      simp only [rotate, hkey]
  | some replacement =>
      have houtcome : (rotate aead nonces newKey newVersion (some index) connection
          active).outcome = guarded .database (rotateScript aead active replacement
            nonces newVersion) (some index) connection := by
        simp only [rotate, hkey]
        split <;> rfl
      rw [houtcome] at hfired ⊢
      exact (guarded_fired hfired).1

end Outcomes

/-! ## Reading under the new key -/

/-- The row after a rotation differs in its body, which holds the same text
under the new key. -/
def Carried (aead : Aead) (active replacement : Key) (row moved : MessageRow) :
    Prop :=
  ∃ body plaintext, moved = { row with bodyCiphertext := body } ∧
    decrypt aead active row.bodyCiphertext = .ok plaintext ∧
    decrypt aead replacement body = .ok plaintext

section Reading

variable {aead : Aead} {active replacement : Key} {db result : Database}

theorem keys_reencrypt {nonces : Id16 → Nonce} {rows : List MessageRow}
    (hloop : reencrypt aead active replacement nonces rows db = .ok result) :
    result.messages.rows.map MessageRow.clientMessageId =
      db.messages.rows.map MessageRow.clientMessageId := by
  apply reencrypt_keeps (P := fun current =>
    current.messages.rows.map MessageRow.clientMessageId =
      db.messages.rows.map MessageRow.clientMessageId) hloop rfl
  intro row _ body current hcurrent
  rw [← hcurrent]
  apply Table.keys_modify
  exact fun _ => rfl

/-- The loop carries every row over and keeps the order of the table. -/
theorem reencrypt_carries (hcorrect : aead.Correct) {nonces : Id16 → Nonce}
    (hloop : reencrypt aead active replacement nonces db.messages.rows db =
      .ok result) :
    ∃ moved : MessageRow → MessageRow,
      result.messages.rows = db.messages.rows.map moved ∧
      ∀ row ∈ db.messages.rows, Carried aead active replacement row (moved row) := by
  have hfound (row : MessageRow) (hrow : row ∈ db.messages.rows) :=
    reencrypt_row hloop db.messages.nodup hrow (Table.mem_rows_iff.mp hrow)
  refine ⟨fun row => (result.messages.lookup row.clientMessageId).getD row, ?_, ?_⟩
  · apply Table.rows_eq_map (keys_reencrypt hloop)
    intro row hrow
    obtain ⟨plaintext, body, -, -, hlookup⟩ := hfound row hrow
    rw [hlookup, Option.getD_some]
  · intro row hrow
    obtain ⟨plaintext, body, hdecrypt, hencrypt, hlookup⟩ := hfound row hrow
    dsimp only
    rw [hlookup, Option.getD_some]
    exact ⟨body, plaintext, rfl, hdecrypt, decrypt_same_key hcorrect hencrypt⟩

variable {moved : MessageRow → MessageRow}

theorem localMessage_carried {row after : MessageRow}
    (hcarried : Carried aead active replacement row after) :
    localMessage aead replacement after = localMessage aead active row := by
  obtain ⟨body, plaintext, rfl, hbefore, hafter⟩ := hcarried
  simp only [localMessage, hbefore, hafter]

theorem fields_carried {row after : MessageRow}
    (hcarried : Carried aead active replacement row after) :
    after.conversationId = row.conversationId ∧
      after.createdAtMs = row.createdAtMs := by
  obtain ⟨body, -, rfl, -⟩ := hcarried
  exact ⟨rfl, rfl⟩

theorem conversationRows_carried
    (hrows : result.messages.rows = db.messages.rows.map moved)
    (hcarried : ∀ row ∈ db.messages.rows,
      Carried aead active replacement row (moved row)) (conversationId : Id16) :
    conversationRows conversationId result =
      (conversationRows conversationId db).map moved := by
  have hfields (row : MessageRow) (hrow : row ∈ db.messages.rows) :=
    fields_carried (hcarried row hrow)
  unfold conversationRows
  rw [List.map_insertionSort _ (fun left right : MessageRow =>
    left.createdAtMs ≤ right.createdAtMs)]
  · rw [hrows, List.filter_map]
    congr 2
    apply List.filter_congr
    intro row hrow
    rw [Function.comp_apply, (hfields row hrow).1]
  · intro left hleft right hright
    rw [(hfields left (List.mem_of_mem_filter hleft)).2,
      (hfields right (List.mem_of_mem_filter hright)).2]

theorem searchRows_carried
    (hrows : result.messages.rows = db.messages.rows.map moved)
    (hcarried : ∀ row ∈ db.messages.rows,
      Carried aead active replacement row (moved row)) :
    searchRows result = (searchRows db).map moved := by
  have htimes (row : MessageRow) (hrow : row ∈ db.messages.rows) :=
    (fields_carried (hcarried row hrow)).2
  unfold searchRows
  rw [List.map_insertionSort _ (fun left right : MessageRow =>
    right.createdAtMs ≤ left.createdAtMs), hrows]
  intro left hleft right hright
  rw [htimes left hleft, htimes right hright]

/-- Reading row by row gives the same results. -/
theorem mapM_carried {rows : List MessageRow}
    (hcarried : ∀ row ∈ rows, Carried aead active replacement row (moved row)) :
    (rows.map moved).mapM (localMessage aead replacement) =
      rows.mapM (localMessage aead active) := by
  induction rows with
  | nil => rfl
  | cons row rows ih =>
      rw [List.map_cons, List.mapM_cons, List.mapM_cons,
        localMessage_carried (hcarried row List.mem_cons_self),
        ih fun other hother => hcarried other (List.mem_cons_of_mem row hother)]

theorem searchLoop_carried (toLowercase : String → String) (query : String)
    {rows : List MessageRow}
    (hcarried : ∀ row ∈ rows, Carried aead active replacement row (moved row))
    (found : List LocalMessage) :
    searchLoop aead toLowercase replacement query (rows.map moved) found =
      searchLoop aead toLowercase active query rows found := by
  induction rows generalizing found with
  | nil => rfl
  | cons row rows ih =>
      have hrest := ih fun other hother =>
        hcarried other (List.mem_cons_of_mem row hother)
      obtain ⟨body, plaintext, hmoved, hbefore, hafter⟩ :=
        hcarried row List.mem_cons_self
      rw [List.map_cons, hmoved]
      simp only [searchLoop, hbefore, hafter, hrest]

end Reading

/-! ## Every rotation -/

/-- What a rotation promises of a store that it has carried over to a new
key. -/
structure CarriedOver (aead : Aead) (toLowercase : String → String)
    (newKey : Bytes) (before after : MessengerCore) : Prop where
  listed : ∀ conversationId,
    listMessages aead conversationId after = listMessages aead conversationId before
  searched : ∀ query,
    localSearch aead toLowercase query after =
      localSearch aead toLowercase query before
  version : after.db.keyVersion = before.db.keyVersion + 1
  key : after.masterKey.toList = newKey
  readable : ∀ row ∈ after.db.messages.rows,
    ∃ plaintext, decrypt aead after.masterKey row.bodyCiphertext = .ok plaintext

/-- The length of the key or the version is wrong, or some row does not open under
the active key. -/
def Refusable (aead : Aead) (newKey : Bytes) (newVersion : UInt32) (active : Key)
    (db : Database) : Prop :=
  newKey.length ≠ 32 ∨ (newVersion.toNat : ℤ) ≠ db.keyVersion + 1 ∨
    ∃ row ∈ db.messages.rows, ∃ failure,
      decrypt aead active row.bodyCiphertext = .error failure

section Contract

variable {aead : Aead} {nonces : Id16 → Nonce} {newKey : Bytes}
variable {newVersion : UInt32} {fault : Option ℕ}
variable {connection : Connection Database} {active : Key}

theorem carriedOver_of_ok (hcorrect : aead.Correct)
    (toLowercase : String → String)
    (hok : (rotate aead nonces newKey newVersion fault connection
      active).outcome.result = .ok ()) :
    CarriedOver aead toLowercase newKey ⟨connection.current, active⟩
      ⟨(rotate aead nonces newKey newVersion fault connection
          active).outcome.connection.current,
        (rotate aead nonces newKey newVersion fault connection active).masterKey⟩ := by
  obtain ⟨replacement, reencrypted, hkey, hidle, hversion, hloop, hafter, hactive⟩ :=
    rotate_eq_ok hok
  obtain ⟨moved, hrows, hcarried⟩ := reencrypt_carries hcorrect hloop
  rw [current_of_working hidle, hafter, hactive]
  constructor
  · intro conversationId
    have hselected := conversationRows_carried hrows hcarried conversationId
    have hmoved : ∀ row ∈ conversationRows conversationId connection.committed,
        Carried aead active replacement row (moved row) := fun row hrow =>
      hcarried row (mem_conversationRows.mp hrow).1
    calc (conversationRows conversationId reencrypted).mapM
          (localMessage aead replacement)
        = ((conversationRows conversationId connection.committed).map moved).mapM
            (localMessage aead replacement) := by rw [hselected]
      _ = (conversationRows conversationId connection.committed).mapM
            (localMessage aead active) := mapM_carried hmoved
  · intro query
    unfold localSearch
    split
    · rfl
    · have hselected := searchRows_carried hrows hcarried
      have hmoved : ∀ row ∈ searchRows connection.committed,
          Carried aead active replacement row (moved row) := fun row hrow =>
        hcarried row ((List.mem_insertionSort _).mp hrow)
      calc searchLoop aead toLowercase replacement query (searchRows reencrypted) []
          = searchLoop aead toLowercase replacement query
              ((searchRows connection.committed).map moved) [] := by rw [hselected]
        _ = searchLoop aead toLowercase active query
              (searchRows connection.committed) [] :=
            searchLoop_carried toLowercase query hmoved []
  · exact hversion
  · exact FixedBytes.ofBytes?_eq_some.mp hkey
  · intro row hrow
    change row ∈ reencrypted.messages.rows at hrow
    rw [hrows] at hrow
    obtain ⟨before, hbefore, rfl⟩ := List.mem_map.mp hrow
    obtain ⟨body, plaintext, hmoved, -, hopens⟩ := hcarried before hbefore
    exact ⟨plaintext, by rw [hmoved]; exact hopens⟩

theorem refused_of_refusable (hcorrect : aead.Correct)
    (hrefusable : Refusable aead newKey newVersion active connection.current) :
    ∃ failure, (rotate aead nonces newKey newVersion fault connection
      active).outcome.result = .error failure := by
  cases hresult : (rotate aead nonces newKey newVersion fault connection
      active).outcome.result with
  | error failure => exact ⟨failure, rfl⟩
  | ok value =>
      obtain ⟨replacement, reencrypted, hkey, hidle, hversion, hloop, -⟩ :=
        rotate_eq_ok hresult
      rw [current_of_working hidle] at hrefusable
      rcases hrefusable with hlength | hother | ⟨row, hrow, failure, hsealed⟩
      · rw [← FixedBytes.ofBytes?_eq_some.mp hkey] at hlength
        exact absurd replacement.toList_length hlength
      · exact absurd hversion hother
      · obtain ⟨moved, -, hcarried⟩ := reencrypt_carries hcorrect hloop
        obtain ⟨body, plaintext, -, hopens, -⟩ := hcarried row hrow
        rw [hsealed] at hopens
        cases hopens

end Contract

/-- A rotation that returns `Ok` has moved the key version by one and the whole
store to the new key, and reading sees no difference; one that returns an error has
changed neither the database nor the key.  A key of the wrong length, a wrong
version, a row that does not open and a failing statement all make it an error. -/
theorem rotation_carries_over_or_undoes (aead : Aead) (hcorrect : aead.Correct)
    (toLowercase : String → String) (nonces : Id16 → Nonce) (newKey : Bytes)
    (newVersion : UInt32) (fault : Option ℕ) (connection : Connection Database)
    (active : Key) :
    let rotated := rotate aead nonces newKey newVersion fault connection active
    (rotated.outcome.result = .ok () →
      CarriedOver aead toLowercase newKey ⟨connection.current, active⟩
        ⟨rotated.outcome.connection.current, rotated.masterKey⟩) ∧
    (∀ failure, rotated.outcome.result = .error failure →
      rotated.outcome.connection = connection ∧ rotated.masterKey = active) ∧
    ((Refusable aead newKey newVersion active connection.current ∨
        fault ≠ none ∧ rotated.outcome.fault = none) →
      ∃ failure, rotated.outcome.result = .error failure) := by
  refine ⟨carriedOver_of_ok hcorrect toLowercase, ?_, ?_⟩
  · intro failure hrefused
    exact rotate_of_error hrefused
  · rintro (hrefusable | ⟨hfault, hfired⟩)
    · exact refused_of_refusable hcorrect hrefusable
    · obtain ⟨index, rfl⟩ := Option.ne_none_iff_exists'.mp hfault
      exact rotate_fired hfired
/-- Two messages, of which a search finds the second, and a key to rotate to. -/
def twoMessages : MessengerCore :=
  Runs.run (StoreOperations.step Aead.transparent)
    (Acknowledgements.opened Acknowledgements.sampleKey)
    [.createMessage (FixedBytes.fill 16 1) (FixedBytes.fill 24 3) 0
        (FixedBytes.fill 16 4) "ab",
      .createMessage (FixedBytes.fill 16 2) (FixedBytes.fill 24 3) 0
        (FixedBytes.fill 16 4) "OK"]

theorem two_messages_carried_over :
    CarriedOver Aead.transparent id (List.replicate 32 7)
      ⟨twoMessages.db, twoMessages.masterKey⟩
      ⟨(rotate Aead.transparent (fun _ => FixedBytes.fill 24 5) (List.replicate 32 7)
          2 none (.idle twoMessages.db)
          twoMessages.masterKey).outcome.connection.current,
        (rotate Aead.transparent (fun _ => FixedBytes.fill 24 5)
          (List.replicate 32 7) 2 none (.idle twoMessages.db)
          twoMessages.masterKey).masterKey⟩ :=
  (rotation_carries_over_or_undoes Aead.transparent Aead.transparent_correct id
    (fun _ => FixedBytes.fill 24 5) (List.replicate 32 7) 2 none
    (.idle twoMessages.db) twoMessages.masterKey).1 (by decide +kernel)

end ResilientMessenger.Rotations
