import ResilientMessenger.Store.Readings

/-!
# The change counter

Six triggers and one statement advance `change_counter`.  A call advances it or leaves
alone all that the user interface shows: the messages, the conversations, the inbox and
the members (`Counted`).  Two calls change shown data in a way no trigger sees:
`create_message` moves the time of a conversation, but it also inserts a message; and a
rotation replaces the key, but it also updates every message there is.
-/

namespace ResilientMessenger.Revisions

open ResilientMessenger.ByteCodec
open ResilientMessenger.LocalDatabase
open ResilientMessenger.StoreOperations
open ResilientMessenger.MessageLifecycle
open ResilientMessenger.Transaction
open ResilientMessenger.Runs
open ResilientMessenger.Readings
open ResilientMessenger.Durability (LocalMessage listMessages)
open ResilientMessenger.Acknowledgements (opened sampleKey sampleCreate)

/-! ## Counted changes -/

/-- The counter and the tables that are shown. -/
def shown (db : Database) : ℤ × Table MessageRow.clientMessageId ×
    Table ConversationRow.conversationId × Table InboxRow.eventId ×
    Table MemberRow.key :=
  (db.revision, db.messages, db.conversations, db.inbox, db.conversationMembers)

/-- The counter has advanced, or nothing that is shown has changed. -/
def Counted (before after : Database) : Prop :=
  before.revision < after.revision ∨ shown after = shown before

theorem Counted.refl (db : Database) : Counted db db := .inr rfl

theorem Counted.le {before after : Database} (hcounted : Counted before after) :
    before.revision ≤ after.revision := by
  rcases hcounted with hless | hsame
  · exact hless.le
  · exact (congrArg Prod.fst hsame).ge

theorem Counted.trans {first second third : Database} (hfirst : Counted first second)
    (hsecond : Counted second third) : Counted first third := by
  rcases hfirst with hless | hsame
  · exact .inl (hless.trans_le hsecond.le)
  · rcases hsecond with hless | hagain
    · have hrevision : second.revision = first.revision := congrArg Prod.fst hsame
      exact .inl (hrevision ▸ hless)
    · exact .inr (hagain.trans hsame)

section Statements

variable (db : Database)

theorem counted_insertOrIgnoreConversation (row : ConversationRow) :
    Counted db (db.insertOrIgnoreConversation row) := by
  unfold Database.insertOrIgnoreConversation
  split
  · exact .inl (Int.lt_succ db.revision)
  · exact .refl db

theorem revision_updateMessage {id : Id16} {cond : MessageRow → Bool}
    {f : MessageRow → MessageRow}
    (hkey : ∀ row, (f row).clientMessageId = row.clientMessageId)
    (haffects : db.messages.affects id cond = true) :
    db.revision < (db.updateMessage id cond f hkey).revision := by
  simp [Database.updateMessage, haffects]

theorem counted_updateMessage (id : Id16) (cond : MessageRow → Bool)
    (f : MessageRow → MessageRow)
    (hkey : ∀ row, (f row).clientMessageId = row.clientMessageId) :
    Counted db (db.updateMessage id cond f hkey) := by
  cases haffects : db.messages.affects id cond with
  | true => exact .inl (revision_updateMessage db hkey haffects)
  | false =>
      right
      simp [shown, Database.updateMessage, haffects, Table.modify_of_unaffected]

theorem counted_setStatus (id : Id16) (cond : MessageRow → Bool) (status : MessageStatus) :
    Counted db (db.setStatus id cond status) :=
  counted_updateMessage db id cond _ _

theorem counted_setBody (id : Id16) (body : Bytes) : Counted db (db.setBody id body) :=
  counted_updateMessage db id _ _ _

theorem counted_insertOrIgnoreInbox (row : InboxRow) :
    Counted db (db.insertOrIgnoreInbox row).2 := by
  unfold Database.insertOrIgnoreInbox
  split
  · exact .inl (Int.lt_succ db.revision)
  · exact .refl db

end Statements

/-! ## Every call is counted -/

section Calls

variable (db : Database)

theorem counted_insertCreated (id conversationId : Id16) (encrypted : Bytes) (now : ℤ) :
    Counted db (insertCreated id conversationId encrypted now db).2 := by
  rcases insertCreated_frame id conversationId encrypted now db with
    ⟨failure, hfailure⟩ | ⟨_, _, _, revision, hless, hinserted⟩
  · rw [hfailure]
    exact .refl db
  · rw [hinserted]
    exact .inl hless

theorem counted_markUploadAccepted (id : Id16) :
    Counted db (markUploadAccepted id db).2 := by
  apply transaction_keeps (.refl db)
  intro value committed hbody
  dsimp only at hbody
  split at hbody
  · cases hbody
  · cases hbody
    exact (counted_setStatus db id acceptable .serverAccepted).trans (.inr rfl)

theorem counted_retryMessage (now : ℤ) (id : Id16) :
    Counted db (retryMessage now id db).2 := by
  unfold retryMessage
  split
  · exact .refl db
  · split
    · exact .refl db
    · exact Counted.trans (.inr rfl) (counted_setStatus _ id _ .retryScheduled)

theorem counted_cancelPendingMessage (id : Id16) :
    Counted db (cancelPendingMessage id db).2 := by
  apply transaction_keeps (.refl db)
  intro value committed hbody
  split at hbody
  · cases hbody
    exact (counted_setStatus db id cancellable .cancelled).trans (.inr rfl)
  · cases hbody

theorem counted_advanceMessageStatus (id : Id16) (status : MessageStatus) :
    Counted db (advanceMessageStatus id status db).2 := by
  unfold advanceMessageStatus
  dsimp only
  split
  · exact counted_setStatus db id _ status
  · split <;> exact .refl db

theorem counted_addMember (groupId deviceId : Id16) (accountId : Id32) :
    Counted db (addMember groupId deviceId accountId db).2 := by
  unfold addMember
  split
  · exact .refl db
  · exact .inl (Int.lt_succ db.revision)

theorem counted_removeMember (now : ℤ) (groupId deviceId : Id16) :
    Counted db (removeMember now groupId deviceId db).2 := by
  unfold removeMember
  dsimp only
  split
  · exact .inl (Int.lt_succ db.revision)
  · exact .refl db

theorem counted_ingestServerEvent (now : ℤ) (event : IncomingEvent) :
    Counted db (ingestServerEvent now event db).2 :=
  counted_insertOrIgnoreInbox db (event.row now)

theorem counted_ingestLoop (events : List (IncomingEvent × ℤ)) (inserted : ℕ) :
    Counted db (ingestLoop events inserted db).2 := by
  induction events generalizing inserted db with
  | nil => exact .refl db
  | cons entry events ih =>
      exact (counted_insertOrIgnoreInbox db (entry.1.row entry.2)).trans (ih _ _)

theorem counted_ingestServerBatch (events : List (IncomingEvent × ℤ)) :
    Counted db (ingestServerBatch events db).2 := by
  unfold ingestServerBatch
  split
  · exact .refl db
  · exact counted_ingestLoop db events 0

theorem counted_setSyncCursor (scope : Id16) (cursor : UInt64) :
    Counted db (setSyncCursor scope cursor db).2 := by
  unfold setSyncCursor
  dsimp only
  split_ifs <;> exact .inr rfl

theorem counted_cacheRelayDirectory (directory : CachedRelayDirectory) :
    Counted db (cacheRelayDirectory directory db).2 := by
  unfold cacheRelayDirectory
  dsimp only
  split_ifs <;> exact .inr rfl

end Calls

/-! ## Handles -/

/-- The counter has advanced, or nothing that is shown has changed; the key may have,
if it protects no message. -/
def CountedCores (before after : MessengerCore) : Prop :=
  before.db.revision < after.db.revision ∨
    shown after.db = shown before.db ∧
      (after.masterKey = before.masterKey ∨ after.db.messages.rows = [])

theorem CountedCores.refl (core : MessengerCore) : CountedCores core core :=
  .inr ⟨rfl, .inl rfl⟩

theorem CountedCores.le {before after : MessengerCore}
    (hcounted : CountedCores before after) : before.db.revision ≤ after.db.revision := by
  rcases hcounted with hless | ⟨hsame, -⟩
  · exact hless.le
  · exact (congrArg Prod.fst hsame).ge

theorem countedCores_withDatabase {α : Type} (core : MessengerCore)
    {call : Database → Except CoreError α × Database}
    (hcounted : Counted core.db (call core.db).2) :
    CountedCores core (core.withDatabase call).2 := by
  rcases hcounted with hless | hsame
  · exact .inl hless
  · exact .inr ⟨hsame, .inl rfl⟩

theorem countedCores_createMessage (aead : Aead) (id : Id16) (nonce : Nonce) (now : ℤ)
    (conversationId : Id16) (plaintext : String) (core : MessengerCore) :
    CountedCores core
      (createMessage aead id nonce now conversationId plaintext core).2 := by
  unfold createMessage
  cases encrypt aead core.masterKey nonce (utf8 plaintext) with
  | error failure => exact .refl core
  | ok encrypted =>
      exact countedCores_withDatabase core
        (counted_insertCreated core.db id conversationId encrypted now)

/-- The rotation updates the first message it finds, and no later statement takes the
counter back. -/
theorem revision_reencrypt {aead : Aead} {active replacement : Key}
    {nonces : Id16 → Nonce} {row : MessageRow} {rows : List MessageRow}
    {db result : Database} (hrow : row ∈ db.messages.rows)
    (hloop : reencrypt aead active replacement nonces (row :: rows) db = .ok result) :
    db.revision < result.revision := by
  simp only [reencrypt, bind_eq_ok] at hloop
  obtain ⟨plaintext, -, body, -, hrest⟩ := hloop
  have haffects : db.messages.affects row.clientMessageId (fun _ => true) = true := by
    rw [Table.affects, Table.mem_rows_iff.mp hrow]
    rfl
  have hfirst : db.revision < (db.setBody row.clientMessageId body).revision :=
    revision_updateMessage db _ haffects
  apply reencrypt_keeps (P := fun current => db.revision < current.revision) hrest hfirst
  intro other _ body current hcurrent
  exact hcurrent.trans_le (counted_setBody current other.clientMessageId body).le

theorem countedCores_rotateMasterKey (aead : Aead) (nonces : Id16 → Nonce)
    (newKey : Bytes) (newVersion : UInt32) (core : MessengerCore) :
    CountedCores core (rotateMasterKey aead nonces newKey newVersion core).2 := by
  rcases rotateMasterKey_outcome aead nonces newKey newVersion core with
    ⟨failure, hfailure⟩ | ⟨replacement, reencrypted, hloop, hrotated⟩
  · rw [hfailure]
    exact .refl core
  · rw [hrotated]
    cases hrows : core.db.messages.rows with
    | nil =>
        rw [hrows] at hloop
        cases hloop
        exact .inr ⟨rfl, .inr hrows⟩
    | cons row rows =>
        rw [hrows] at hloop
        have hrow : row ∈ core.db.messages.rows := hrows ▸ List.mem_cons_self
        have hless := revision_reencrypt hrow hloop
        exact .inl hless

/-- Every call that writes is counted. -/
theorem countedCores_step (aead : Aead) (core : MessengerCore) (operation : Operation) :
    CountedCores core (step aead core operation) := by
  cases operation with
  | createMessage id nonce now conversationId plaintext =>
      exact countedCores_createMessage aead id nonce now conversationId plaintext core
  | markUploadAccepted id =>
      exact countedCores_withDatabase core (counted_markUploadAccepted core.db id)
  | retryMessage now id =>
      exact countedCores_withDatabase core (counted_retryMessage core.db now id)
  | cancelPendingMessage id =>
      exact countedCores_withDatabase core (counted_cancelPendingMessage core.db id)
  | applyDeliveryReceipt id =>
      exact countedCores_withDatabase core
        (counted_advanceMessageStatus core.db id .delivered)
  | applyReadReceipt id =>
      exact countedCores_withDatabase core
        (counted_advanceMessageStatus core.db id .read)
  | createGroup now groupId =>
      exact countedCores_withDatabase core
        (counted_insertOrIgnoreConversation core.db ⟨groupId, now⟩)
  | addMember groupId deviceId accountId =>
      exact countedCores_withDatabase core
        (counted_addMember core.db groupId deviceId accountId)
  | removeMember now groupId deviceId =>
      exact countedCores_withDatabase core
        (counted_removeMember core.db now groupId deviceId)
  | ingestServerEvent now event =>
      exact countedCores_withDatabase core
        (counted_ingestServerEvent core.db now event)
  | ingestServerBatch events =>
      exact countedCores_withDatabase core (counted_ingestServerBatch core.db events)
  | setSyncCursor scope cursor =>
      exact countedCores_withDatabase core (counted_setSyncCursor core.db scope cursor)
  | blockAccount now accountId => exact .inr ⟨rfl, .inl rfl⟩
  | unblockAccount accountId => exact .inr ⟨rfl, .inl rfl⟩
  | setNetworkMode mode => exact .inr ⟨rfl, .inl rfl⟩
  | cacheRelayDirectory directory =>
      exact countedCores_withDatabase core
        (counted_cacheRelayDirectory core.db directory)
  | rotateMasterKey nonces newKey newVersion =>
      exact countedCores_rotateMasterKey aead nonces newKey newVersion core
  | wipeLocalAccount => exact .inl (Int.lt_succ core.db.revision)

theorem countedCores_respond (aead : Aead) (toLowercase : String → String)
    (core : MessengerCore) (request : Request) :
    CountedCores core (respond aead toLowercase core request).2 := by
  cases request with
  | write operation => exact countedCores_step aead core operation
  | _ => exact .refl core

/-! ## What is shown -/

/-- All that can be observed of a store: what `list_messages` answers for every
conversation, what `list_conversations` answers, the rows of the inbox and the active
members. -/
structure View where
  messages : Id16 → Except CoreError (List LocalMessage)
  conversations : Except CoreError (List ConversationRow)
  inbox : List InboxRow
  members : List MemberRow

def view (aead : Aead) (core : MessengerCore) : View where
  messages conversationId := listMessages aead conversationId core
  conversations := listConversations core.db
  inbox := core.db.inbox.rows
  members := core.db.conversationMembers.rows.filter fun row => row.removedAtMs.isNone

/-- A change of the view is counted. -/
theorem view_of_uncounted {before after : MessengerCore} (aead : Aead)
    (hcounted : CountedCores before after)
    (hsame : after.db.revision = before.db.revision) :
    view aead after = view aead before := by
  rcases hcounted with hless | ⟨hshown, hkey⟩
  · exact absurd hsame hless.ne'
  · simp only [shown, Prod.mk.injEq] at hshown
    obtain ⟨-, hmessages, hconversations, hinbox, hmembers⟩ := hshown
    have hlist : ∀ conversationId, listMessages aead conversationId after =
        listMessages aead conversationId before := by
      intro conversationId
      unfold listMessages Durability.conversationRows
      rcases hkey with hkey | hnone
      · rw [hmessages, hkey]
      · rw [← hmessages, hnone]
        rfl
    simp only [view, listConversations, hlist, hconversations, hinbox, hmembers]

/-! ## An observer -/

/-- A store and someone who watches it: the revision the last poll answered, what was
seen at the last reading, and whether a poll since then has told of a change. -/
structure Watch where
  core : MessengerCore
  last : UInt64
  seen : View
  due : Bool

/-- A call of anyone, a restart, a poll of the observer, or a reading. -/
inductive Action where
  | call (request : Request)
  | reopen
  | poll
  | read

/-- The observer polls with the revision it has and reads when it likes. -/
def Watch.step (aead : Aead) (toLowercase : String → String) (watch : Watch) :
    Action → Watch
  | .call request =>
      { watch with core := (respond aead toLowercase watch.core request).2 }
  | .reopen => { watch with core := Durability.step aead watch.core .reopen }
  | .poll =>
      match observeConversationChanges watch.last watch.core.db with
      | .ok answer =>
          { watch with last := answer, due := watch.due || decide (watch.last < answer) }
      | .error _ => watch
  | .read => { watch with seen := view aead watch.core, due := false }

/-- The observer has seen nothing that counts as seen and reads the store first. -/
def Watch.start (key : Key) (seen : View) : Watch where
  core := opened key
  last := 0
  seen
  due := true

/-- The observer is not ahead of the counter; and when it is not behind either and owes
no reading, it has seen what is there. -/
structure Watching (aead : Aead) (watch : Watch) : Prop where
  reached : (watch.last.toNat : ℤ) ≤ watch.core.db.revision
  current : watch.due = false → watch.core.db.revision = watch.last.toNat →
    watch.seen = view aead watch.core

/-- A poll answers the counter to an observer that is not ahead of it. -/
theorem observe_eq_ok {db : Database} {last answer : UInt64}
    (hreached : (last.toNat : ℤ) ≤ db.revision)
    (hanswer : observeConversationChanges last db = .ok answer) :
    (answer.toNat : ℤ) = db.revision := by
  unfold observeConversationChanges at hanswer
  split at hanswer
  · cases hanswer
  · rename_i hsmall
    have hread : ((UInt64.ofNat (asU64 db.revision)).toNat : ℤ) = db.revision := by
      simp only [asU64, UInt64.toNat_ofNat']
      omega
    dsimp only at hanswer
    split at hanswer
    · rename_i hahead
      rw [UInt64.lt_iff_toNat_lt] at hahead
      omega
    · cases hanswer
      exact hread

section Watching

variable {aead : Aead} {toLowercase : String → String} {watch : Watch}

theorem watching_call (hwatching : Watching aead watch) (request : Request) :
    Watching aead (watch.step aead toLowercase (.call request)) := by
  have hcounted := countedCores_respond aead toLowercase watch.core request
  refine ⟨hwatching.reached.trans hcounted.le, ?_⟩
  intro hdue hlevel
  -- the counter cannot have advanced, for the observer was not ahead of it before
  have hsame : (respond aead toLowercase watch.core request).2.db.revision =
      watch.core.db.revision :=
    le_antisymm (hlevel.trans_le hwatching.reached) hcounted.le
  change watch.seen = view aead (respond aead toLowercase watch.core request).2
  rw [view_of_uncounted aead hcounted hsame]
  exact hwatching.current hdue (hsame.symm.trans hlevel)

theorem watching_poll (hwatching : Watching aead watch) :
    Watching aead (watch.step aead toLowercase .poll) := by
  simp only [Watch.step]
  cases hanswer : observeConversationChanges watch.last watch.core.db with
  | error failure => exact hwatching
  | ok answer =>
      have hlevel := observe_eq_ok hwatching.reached hanswer
      refine ⟨hlevel.le, ?_⟩
      intro hdue _
      simp only [Bool.or_eq_false_iff, decide_eq_false_iff_not,
        UInt64.lt_iff_toNat_lt] at hdue
      have hreached := hwatching.reached
      apply hwatching.current hdue.1
      omega

theorem watching_step (watch : Watch) (action : Action) (hwatching : Watching aead watch) :
    Watching aead (watch.step aead toLowercase action) := by
  cases action with
  | call request => exact watching_call hwatching request
  | reopen =>
      simp only [Watch.step, Durability.step_reopen]
      exact hwatching
  | poll => exact watching_poll hwatching
  | read => exact ⟨hwatching.reached, fun _ _ => rfl⟩

end Watching

/-- No call takes the counter back, and one that changes anything shown advances it.
An observer that polls with the revision it was last told and reads whenever that has
grown has seen all that is shown when a poll answers nothing new. -/
theorem changes_are_counted (aead : Aead) (toLowercase : String → String) :
    (∀ core request,
      let next := (respond aead toLowercase core request).2
      core.db.revision ≤ next.db.revision ∧
        (view aead next ≠ view aead core → core.db.revision < next.db.revision)) ∧
    (∀ key seen actions,
      let watch := run (Watch.step aead toLowercase) (Watch.start key seen) actions
      watch.due = false →
        observeConversationChanges watch.last watch.core.db = .ok watch.last →
          watch.seen = view aead watch.core) := by
  constructor
  · intro core request next
    have hcounted : CountedCores core next :=
      countedCores_respond aead toLowercase core request
    refine ⟨hcounted.le, ?_⟩
    intro hchanged
    apply lt_of_le_of_ne hcounted.le
    intro hsame
    exact hchanged (view_of_uncounted aead hcounted hsame.symm)
  · intro key seen actions watch hdue hanswer
    have hwatching : Watching aead watch := by
      apply run_invariant watching_step _ actions
      exact ⟨le_refl 0, by simp [Watch.start]⟩
    exact hwatching.current hdue (observe_eq_ok hwatching.reached hanswer).symm

/-- A message is created, noticed, read, and the next poll tells of nothing new. -/
def noticing : List Action := [.call (.write sampleCreate), .poll, .read, .poll]

theorem creation_is_noticed :
    (opened sampleKey).db.revision <
        (respond Aead.transparent id (opened sampleKey)
          (.write sampleCreate)).2.db.revision ∧
      (run (Watch.step Aead.transparent id)
          (Watch.start sampleKey (view Aead.transparent (opened sampleKey)))
          noticing).seen =
        view Aead.transparent (run (Watch.step Aead.transparent id)
          (Watch.start sampleKey (view Aead.transparent (opened sampleKey)))
          noticing).core := by
  have hcounted := changes_are_counted Aead.transparent id
  constructor
  · apply (hcounted.1 (opened sampleKey) (.write sampleCreate)).2
    intro hsame
    have hconversations := congrArg View.conversations hsame
    revert hconversations
    decide +kernel
  · exact hcounted.2 sampleKey _ noticing (by decide +kernel) (by decide +kernel)

end ResilientMessenger.Revisions
