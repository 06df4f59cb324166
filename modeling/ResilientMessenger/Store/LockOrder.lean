import ResilientMessenger.Core.Locking
import ResilientMessenger.Core.Runs

/-!
# The two locks of the store

`MessengerCore` guards its connection with a mutex and its key with a
reader-writer lock.  This module lists the order in which every public call
takes and releases them.  `list_messages` and `local_search` take the key lock
for every row while they hold the database lock; `rotate_master_key` takes the
database lock while it holds the key lock.  Those two nestings are the only
source of a deadlock, and the theorem at the end says exactly when they meet.
-/

namespace ResilientMessenger.LockOrder

open ResilientMessenger.Locking
open ResilientMessenger.Runs

inductive Lock where
  | db
  | masterKey
  deriving DecidableEq

/-- The public calls, with what decides which locks they take: whether the
arguments are refused before any lock is taken, and how many rows are
decrypted before the call returns. -/
inductive Call where
  | createMessage (encrypted : Bool)
  | listMessages (rows : ℕ)
  | listConversations
  | observeConversationChanges
  | createGroup
  | addMember
  | removeMember
  | getPendingUploads
  | markUploadAccepted
  | retryMessage
  | cancelPendingMessage
  | ingestServerEvent
  | ingestServerBatch (tooLong : Bool)
  | setSyncCursor
  | applyDeliveryReceipt
  | applyReadReceipt
  | blockAccount
  | unblockAccount
  | setNetworkMode
  | getNetworkDiagnostics
  | cacheRelayDirectory
  | lastRelayDirectory
  | localSearch (emptyQuery : Bool) (rows : ℕ)
  | rotateMasterKey (validKey : Bool)
  | wipeLocalAccount
  | schemaVersion

/-! ## Programs -/

def underDatabase (body : List (Action Lock)) : List (Action Lock) :=
  .acquire .db .exclusive :: (body ++ [.release .db .exclusive])

/-- The key guard is a temporary of one statement. -/
def underKey : List (Action Lock) :=
  [.acquire .masterKey .shared, .release .masterKey .shared]

/-- One key guard for every decrypted row. -/
def decryptRows : ℕ → List (Action Lock)
  | 0 => []
  | rows + 1 => underKey ++ decryptRows rows

/-- Locals are dropped in reverse order, so the database lock goes first. -/
def rotation : List (Action Lock) :=
  .acquire .masterKey .exclusive ::
    (underDatabase [] ++ [.release .masterKey .exclusive])

def Call.locks : Call → List (Action Lock)
  | .createMessage encrypted =>
      if encrypted then underKey ++ underDatabase [] else underKey
  | .listMessages rows => underDatabase (decryptRows rows)
  | .localSearch emptyQuery rows =>
      if emptyQuery then [] else underDatabase (decryptRows rows)
  | .rotateMasterKey validKey => if validKey then rotation else []
  | .ingestServerBatch tooLong => if tooLong then [] else underDatabase []
  | .listConversations
  | .observeConversationChanges
  | .createGroup
  | .addMember
  | .removeMember
  | .getPendingUploads
  | .markUploadAccepted
  | .retryMessage
  | .cancelPendingMessage
  | .ingestServerEvent
  | .setSyncCursor
  | .applyDeliveryReceipt
  | .applyReadReceipt
  | .blockAccount
  | .unblockAccount
  | .setNetworkMode
  | .getNetworkDiagnostics
  | .cacheRelayDirectory
  | .lastRelayDirectory
  | .wipeLocalAccount
  | .schemaVersion => underDatabase []

/-- The rest of a call that lists rows, with the database lock held. -/
def listing (rows : ℕ) : List (Action Lock) :=
  decryptRows rows ++ [.release .db .exclusive]

/-- The rest of a rotation that has the key lock only. -/
def rotating : List (Action Lock) :=
  underDatabase [] ++ [.release .masterKey .exclusive]

/-- Every place a call can be at. -/
inductive Position : List (Action Lock) → Prop where
  | finished : Position []
  | listed (rows : ℕ) : Position (.acquire .db .exclusive :: listing rows)
  | listing (rows : ℕ) : Position (listing rows)
  | decrypting (rows : ℕ) :
      Position (.release .masterKey .shared :: LockOrder.listing rows)
  | creating : Position (underKey ++ underDatabase [])
  | encrypting : Position (.release .masterKey .shared :: underDatabase [])
  | refused : Position underKey
  | refusing : Position [.release .masterKey .shared]
  | rotation : Position rotation
  | rotating : Position rotating
  | rotated : Position [.release .db .exclusive, .release .masterKey .exclusive]
  | rotationDone : Position [.release .masterKey .exclusive]

theorem listing_succ (rows : ℕ) :
    listing (rows + 1) =
      .acquire .masterKey .shared :: .release .masterKey .shared ::
        listing rows := rfl

theorem underDatabase_decryptRows (rows : ℕ) :
    underDatabase (decryptRows rows) =
      .acquire .db .exclusive :: listing rows := rfl

theorem position_locks (call : Call) : Position call.locks := by
  cases call with
  | createMessage encrypted =>
      cases encrypted
      · exact .refused
      · exact .creating
  | listMessages rows => exact .listed rows
  | localSearch emptyQuery rows =>
      cases emptyQuery
      · exact .listed rows
      · exact .finished
  | rotateMasterKey validKey =>
      cases validKey
      · exact .finished
      · exact .rotation
  | ingestServerBatch tooLong =>
      cases tooLong
      · exact .listed 0
      · exact .finished
  | _ => exact .listed 0

theorem position_tail (action : Action Lock) (rest : List (Action Lock))
    (hposition : Position (action :: rest)) : Position rest := by
  generalize hprogram : action :: rest = program at hposition
  cases hposition with
  | finished => cases hprogram
  | listed rows =>
      cases hprogram
      exact .listing rows
  | listing rows =>
      cases rows with
      | zero =>
          cases hprogram
          exact .finished
      | succ rows =>
          cases hprogram
          exact .decrypting rows
  | decrypting rows =>
      cases hprogram
      exact .listing rows
  | creating =>
      cases hprogram
      exact .encrypting
  | encrypting =>
      cases hprogram
      exact .listed 0
  | refused =>
      cases hprogram
      exact .refusing
  | refusing =>
      cases hprogram
      exact .finished
  | rotation =>
      cases hprogram
      exact .rotating
  | rotating =>
      cases hprogram
      exact .rotated
  | rotated =>
      cases hprogram
      exact .rotationDone
  | rotationDone =>
      cases hprogram
      exact .finished

/-! ## What is held where -/

@[simp]
theorem heldBefore_listing (rows : ℕ) :
    heldBefore (listing rows) = [(.db, .exclusive)] := by
  induction rows with
  | zero => rfl
  | succ rows ih => simp [listing_succ, heldBefore, ih]

theorem heldBefore_rotating :
    heldBefore rotating = [(.masterKey, .exclusive)] := by decide

theorem bracketed_listing (rows : ℕ) : Bracketed (listing rows) := by
  induction rows with
  | zero => simp [listing, decryptRows, Bracketed, heldBefore]
  | succ rows ih => simp [listing_succ, Bracketed, heldBefore, ih]

theorem bracketed_locks (call : Call) : Bracketed call.locks := by
  have hlisted (rows : ℕ) : Bracketed (underDatabase (decryptRows rows)) := by
    simp [underDatabase_decryptRows, Bracketed, bracketed_listing]
  cases call with
  | createMessage encrypted =>
      cases encrypted <;>
        simp [Call.locks, underKey, underDatabase, Bracketed, heldBefore]
  | listMessages rows => exact hlisted rows
  | localSearch emptyQuery rows =>
      cases emptyQuery
      · exact hlisted rows
      · trivial
  | rotateMasterKey validKey =>
      cases validKey <;>
        simp [Call.locks, rotation, underDatabase, Bracketed, heldBefore]
  | ingestServerBatch tooLong =>
      cases tooLong
      · exact hlisted 0
      · trivial
  | _ => exact hlisted 0

theorem heldBefore_locks (call : Call) : heldBefore call.locks = [] := by
  have hlisted (rows : ℕ) : heldBefore (underDatabase (decryptRows rows)) = [] := by
    simp [underDatabase_decryptRows, heldBefore]
  cases call with
  | createMessage encrypted => cases encrypted <;> decide
  | listMessages rows => exact hlisted rows
  | localSearch emptyQuery rows =>
      cases emptyQuery
      · exact hlisted rows
      · rfl
  | rotateMasterKey validKey => cases validKey <;> decide
  | ingestServerBatch tooLong => cases tooLong <;> decide
  | _ => exact hlisted 0

/-- Only two places ask for a lock while holding one. -/
theorem holding_and_waiting {lock other : Lock} {mode held : Mode}
    {rest : List (Action Lock)}
    (hposition : Position (.acquire lock mode :: rest))
    (hheld : (other, held) ∈ heldBefore (.acquire lock mode :: rest)) :
    (∃ rows, .acquire lock mode :: rest = listing (rows + 1)) ∨
      .acquire lock mode :: rest = rotating := by
  generalize hprogram : Action.acquire lock mode :: rest = program
    at hposition hheld ⊢
  cases hposition with
  | finished => cases hprogram
  | listed rows => simp [heldBefore] at hheld
  | listing rows =>
      cases rows with
      | zero => cases hprogram
      | succ rows => exact .inl ⟨rows, rfl⟩
  | decrypting rows => cases hprogram
  | creating =>
      simp [underKey, underDatabase, heldBefore] at hheld
  | encrypting => cases hprogram
  | refused => simp [underKey, heldBefore] at hheld
  | refusing => cases hprogram
  | rotation => simp [rotation, underDatabase, heldBefore] at hheld
  | rotating => exact .inr rfl
  | rotated => cases hprogram
  | rotationDone => cases hprogram

/-! ## Deadlocks are crossings -/

/-- A listing that has the database lock and a row to decrypt, and a rotation
that has the key lock and not the database lock. -/
def Crossed (state : State Lock) : Prop :=
  ∃ reader rotator rows, state.todo reader = listing (rows + 1) ∧
    state.todo rotator = rotating

theorem reader_ne_rotator {state : State Lock} {reader rotator rows : ℕ}
    (hreader : state.todo reader = listing (rows + 1))
    (hrotator : state.todo rotator = rotating) : reader ≠ rotator := by
  rintro rfl
  rw [hreader] at hrotator
  cases hrotator

theorem deadlock_of_crossed {state : State Lock} (hsound : Sound state)
    (hcrossed : Crossed state) : Deadlock state := by
  obtain ⟨reader, rotator, rows, hreader, hrotator⟩ := hcrossed
  have hne := reader_ne_rotator hreader hrotator
  have hkey : (rotator, .exclusive) ∈ state.holders .masterKey := by
    rw [hsound.accounts, hrotator, heldBefore_rotating]
    exact List.mem_singleton_self _
  have hdb : (reader, .exclusive) ∈ state.holders .db := by
    rw [hsound.accounts, hreader, heldBefore_listing]
    exact List.mem_singleton_self _
  refine ⟨{reader, rotator}, ⟨reader, .inl rfl⟩, ?_⟩
  rintro thread (rfl | rfl)
  · exact ⟨rotator, .inr rfl, .masterKey, .shared, _, .exclusive, hreader,
      hne.symm, hkey, rfl⟩
  · exact ⟨reader, .inl rfl, .db, .exclusive, _, .exclusive, hrotator, hne, hdb,
      rfl⟩

/-- A thread of a deadlock is held up by a second one that holds a lock and
waits in turn, and the second one by a third; between them they are at both
places that hold and wait. -/
theorem crossed_of_deadlock {state : State Lock} (hsound : Sound state)
    (hposition : ∀ thread, Position (state.todo thread))
    (hdeadlock : Deadlock state) : Crossed state := by
  obtain ⟨threads, ⟨first, hfirst⟩, hwaits⟩ := hdeadlock
  have hblocked : ∀ holder ∈ threads, ∀ lock held,
      (holder, held) ∈ state.holders lock →
      (∃ rows, state.todo holder = listing (rows + 1)) ∨
        state.todo holder = rotating := by
    intro holder hholder lock held hheld
    obtain ⟨_, -, next, nextMode, nextRest, _, htodo, -⟩ := hwaits holder hholder
    rw [hsound.accounts, htodo] at hheld
    rw [htodo]
    exact holding_and_waiting (htodo ▸ hposition holder) hheld
  obtain ⟨second, hsecond, firstLock, _, _, firstHeld, -, -, hfirstHeld, -⟩ :=
    hwaits first hfirst
  obtain ⟨third, hthird, lock, mode, rest, held, htodo, -, hheld, -⟩ :=
    hwaits second hsecond
  have haccount := (hsound.accounts third lock held).mp hheld
  rcases hblocked second hsecond firstLock firstHeld hfirstHeld with
    ⟨rows, hreader⟩ | hrotator
  · rw [hreader, listing_succ] at htodo
    cases htodo
    rcases hblocked third hthird .masterKey held hheld with
      ⟨others, hother⟩ | hrotator
    · simp [hother] at haccount
    · exact ⟨second, third, rows, hreader, hrotator⟩
  · rw [hrotator] at htodo
    cases htodo
    rcases hblocked third hthird .db held hheld with ⟨rows, hreader⟩ | hother
    · exact ⟨third, second, rows, hreader, hrotator⟩
    · simp [hother, heldBefore_rotating] at haccount

/-! ## When the two nestings meet -/

/-- A rotation takes the key lock only when no listing has the database lock
with a row to decrypt, and a listing with a row to decrypt takes the database
lock only when no rotation has the key lock and is still without the database
lock. -/
def KeepsApart (state : State Lock) : Label Call → Prop
  | .start _ _ => True
  | .advance thread =>
      (state.todo thread = rotation →
        state.grants .masterKey .exclusive = true →
          ∀ reader rows, state.todo reader ≠ listing (rows + 1)) ∧
      ∀ rows, state.todo thread = .acquire .db .exclusive :: listing (rows + 1) →
        state.grants .db .exclusive = true →
          ∀ rotator, state.todo rotator ≠ rotating

theorem position_before_listing {action : Action Lock} {rows : ℕ}
    (hposition : Position (action :: listing (rows + 1))) :
    action = .acquire .db .exclusive ∨ action = .release .masterKey .shared := by
  generalize hprogram : action :: listing (rows + 1) = program at hposition
  cases hposition with
  | listed others =>
      rw [List.cons.injEq] at hprogram
      exact .inl hprogram.1
  | decrypting others =>
      rw [List.cons.injEq] at hprogram
      exact .inr hprogram.1
  | listing others => cases others <;> cases hprogram
  | _ => cases hprogram

theorem position_before_rotating {action : Action Lock}
    (hposition : Position (action :: rotating)) :
    action = .acquire .masterKey .exclusive := by
  generalize hprogram : action :: rotating = program at hposition
  cases hposition with
  | rotation =>
      cases hprogram
      rfl
  | listed others => cases others <;> cases hprogram
  | decrypting others => cases others <;> cases hprogram
  | listing others => cases others <;> cases hprogram
  | _ => cases hprogram

/-- A crossing that was not there before involves the thread that moved. -/
theorem crossed_of_update {state after : State Lock} {thread : ℕ}
    {rest : List (Action Lock)}
    (hupdate : after.todo = Function.update state.todo thread rest)
    (hcrossed : Crossed after) :
    Crossed state ∨
      (∃ rows rotator, rest = listing (rows + 1) ∧ rotator ≠ thread ∧
        state.todo rotator = rotating) ∨
      ∃ reader rows, rest = rotating ∧
        state.todo reader = listing (rows + 1) := by
  obtain ⟨reader, rotator, rows, hreader, hrotator⟩ := hcrossed
  have hne := reader_ne_rotator hreader hrotator
  rw [hupdate] at hreader hrotator
  by_cases hmovedReader : reader = thread
  · subst hmovedReader
    rw [Function.update_self] at hreader
    rw [Function.update_of_ne hne.symm] at hrotator
    exact .inr (.inl ⟨rows, rotator, hreader, hne.symm, hrotator⟩)
  · rw [Function.update_of_ne hmovedReader] at hreader
    by_cases hmovedRotator : rotator = thread
    · subst hmovedRotator
      rw [Function.update_self] at hrotator
      exact .inr (.inr ⟨reader, rows, hrotator, hreader⟩)
    · rw [Function.update_of_ne hmovedRotator] at hrotator
      exact .inl ⟨reader, rotator, rows, hreader, hrotator⟩

/-- Starting a call crosses nothing: it holds no lock yet. -/
theorem crossed_start {state : State Lock} {thread : ℕ} {call : Call}
    (hcrossed : Crossed (state.step Call.locks (.start thread call))) :
    Crossed state := by
  simp only [State.step] at hcrossed
  split at hcrossed
  · have hheld := heldBefore_locks call
    rcases crossed_of_update rfl hcrossed with hbefore |
      ⟨rows, rotator, hlocks, -⟩ | ⟨reader, rows, hlocks, -⟩
    · exact hbefore
    · simp [hlocks] at hheld
    · simp [hlocks, heldBefore_rotating] at hheld
  · exact hcrossed

theorem crossed_advance {state : State Lock} (hsound : Sound state)
    (hposition : ∀ thread, Position (state.todo thread)) {thread : ℕ}
    (hapart : KeepsApart state (.advance thread))
    (hcrossed : Crossed (state.advance thread)) : Crossed state := by
  have hthread := hposition thread
  rcases advance_cases state thread with hsame |
    ⟨lock, mode, rest, htodo, hgrants, hadvance⟩ |
    ⟨lock, mode, rest, htodo, hadvance⟩
  · rwa [hsame] at hcrossed
  · rw [hadvance] at hcrossed
    rw [htodo] at hthread
    rcases crossed_of_update (take_todo _ _ _ _ _) hcrossed with hbefore |
      ⟨rows, rotator, rfl, -, hrotator⟩ | ⟨reader, rows, rfl, hreader⟩
    · exact hbefore
    · rcases position_before_listing hthread with haction | haction
      · cases haction
        exact absurd hrotator (hapart.2 rows htodo hgrants rotator)
      · cases haction
    · cases position_before_rotating hthread
      exact absurd hreader (hapart.1 htodo hgrants reader rows)
  · rw [hadvance] at hcrossed
    rw [htodo] at hthread
    rcases crossed_of_update (drop_todo _ _ _ _ _) hcrossed with hbefore |
      ⟨rows, rotator, rfl, hne, hrotator⟩ | ⟨reader, rows, rfl, hreader⟩
    · exact hbefore
    · -- The listing still has its key guard, so no rotation has the key lock.
      rcases position_before_listing hthread with haction | haction
      · cases haction
      · cases haction
        have hshared : (thread, .shared) ∈ state.holders .masterKey := by
          rw [hsound.accounts, htodo]
          exact List.mem_cons_self
        have hexclusive : (rotator, .exclusive) ∈ state.holders .masterKey := by
          rw [hsound.accounts, hrotator, heldBefore_rotating]
          exact List.mem_singleton_self _
        exact absurd (hsound.exclusive _ _ _ _ _ hexclusive hshared rfl) hne
    · cases position_before_rotating hthread

/-- A step that does not keep the nestings apart ends in a crossing. -/
theorem crossed_of_not_keepsApart {state : State Lock} {label : Label Call}
    (hmeet : ¬KeepsApart state label) :
    Crossed (state.step Call.locks label) := by
  cases label with
  | start thread call => exact absurd trivial hmeet
  | advance thread =>
      simp only [KeepsApart, not_and_or, not_forall, not_not] at hmeet
      rcases hmeet with ⟨htodo, hgrants, reader, rows, hreader⟩ |
        ⟨rows, htodo, hgrants, rotator, hrotator⟩
      · have hne : reader ≠ thread := by
          rintro rfl
          rw [hreader] at htodo
          cases htodo
        refine ⟨reader, thread, rows, ?_, ?_⟩
        · simp [State.step, State.advance, htodo, rotation, hgrants, hne, hreader]
        · simp [State.step, State.advance, htodo, rotation, hgrants, rotating]
      · have hne : rotator ≠ thread := by
          rintro rfl
          rw [hrotator] at htodo
          cases htodo
        refine ⟨thread, rotator, rows, ?_, ?_⟩
        · simp [State.step, State.advance, htodo, hgrants]
        · simp [State.step, State.advance, htodo, hgrants, hne, hrotator]

/-! ## Runs -/

/-- The bookkeeping of the locks, the places of the threads, and no crossing. -/
structure Uncrossed (state : State Lock) : Prop where
  sound : Sound state
  position : ∀ thread, Position (state.todo thread)
  apart : ¬Crossed state

theorem uncrossed_idle : Uncrossed State.idle where
  sound := sound_idle
  position _ := .finished
  apart := by
    rintro ⟨reader, rotator, rows, hreader, -⟩
    cases hreader

theorem sound_locks_step {state : State Lock} (hsound : Sound state)
    (label : Label Call) : Sound (state.step Call.locks label) :=
  sound_step heldBefore_locks bracketed_locks hsound label

theorem uncrossed_step {state : State Lock} (huncrossed : Uncrossed state)
    {label : Label Call} (hapart : KeepsApart state label) :
    Uncrossed (state.step Call.locks label) where
  sound := sound_locks_step huncrossed.sound label
  position := todo_step position_tail position_locks huncrossed.position label
  apart := by
    intro hcrossed
    cases label with
    | start thread call => exact huncrossed.apart (crossed_start hcrossed)
    | advance thread =>
        exact huncrossed.apart (crossed_advance huncrossed.sound
          huncrossed.position hapart hcrossed)

/-- However many threads run whatever calls, no state of the run is a deadlock
exactly when every step keeps the two nestings apart. -/
theorem deadlock_free_iff_kept_apart (labels : List (Label Call)) :
    Along (State.step Call.locks) (fun state => ¬Deadlock state) State.idle
        labels ↔
      Guarded (State.step Call.locks) KeepsApart State.idle labels := by
  refine along_iff_guarded
    (fun state (huncrossed : Uncrossed state) hdeadlock => huncrossed.apart
      (crossed_of_deadlock huncrossed.sound huncrossed.position hdeadlock))
    ?_ ?_ uncrossed_idle labels
  · intro state label huncrossed hapart
    exact uncrossed_step huncrossed hapart
  · intro state label huncrossed hmeet hfree
    exact hfree (deadlock_of_crossed (sound_locks_step huncrossed.sound label)
      (crossed_of_not_keepsApart hmeet))

/-- One message is listed while the key is rotated. -/
theorem listing_meets_rotation :
    Deadlock (run (State.step Call.locks) State.idle
      [.start 0 (.listMessages 1), .start 1 (.rotateMasterKey true),
        .advance 0, .advance 1]) := by
  refine ⟨{0, 1}, ⟨0, .inl rfl⟩, ?_⟩
  rintro thread (rfl | rfl)
  · exact ⟨1, .inr rfl, .masterKey, .shared, _, .exclusive, rfl, by decide,
      by decide, rfl⟩
  · exact ⟨0, .inl rfl, .db, .exclusive, _, .exclusive, rfl, by decide,
      by decide, rfl⟩

end ResilientMessenger.LockOrder
