import ResilientMessenger.Core.ByteCodec
import ResilientMessenger.Core.Runs
import ResilientMessenger.Core.Table

/-!
# The group library as a parameter

`messenger-crypto` drives OpenMLS and adds no cryptography of its own, so the
library is a parameter: its operations on a group and on the store of the
provider, each of which may refuse and may change both either way.  Randomness
is an argument.  `Semantics` names what is relied upon.  A group state stands at
the end of a sequence of Commits that starts with the creation of the group;
merging a Commit extends the sequence and raises the epoch by one, and a Commit
is accepted only in exactly the state it was built on.
-/

namespace ResilientMessenger

open ResilientMessenger.ByteCodec
open ResilientMessenger.Runs

/-- The key-value store of a provider. -/
abbrev Storage := Table (Prod.fst : Bytes × Bytes → Bytes)

structure CredentialWithKey where
  identity : Bytes
  signatureKey : Bytes
  deriving DecidableEq

/-- What an operation on a group may change. -/
structure Session (Group : Type) where
  storage : Storage
  group : Group

/-- A message on the wire.  Group infos and key packages are `other`. -/
inductive MlsMessage (Commit Proposal Application Welcome : Type) where
  | commit (commit : Commit)
  | proposal (proposal : Proposal)
  | application (application : Application)
  | welcome (welcome : Welcome)
  | other
  deriving DecidableEq

/-- The content of a message that a group has processed. -/
inductive ProcessedMessageContent (StagedCommit QueuedProposal : Type) where
  | applicationMessage (plaintext : Bytes)
  | proposalMessage (proposal : QueuedProposal)
  | externalJoinProposalMessage (proposal : QueuedProposal)
  | stagedCommitMessage (commit : StagedCommit)

structure OpenMls where
  Signer : Type
  KeyPackage : Type
  Group : Type
  Commit : Type
  Proposal : Type
  Application : Type
  Welcome : Type
  StagedCommit : Type
  QueuedProposal : Type
  newSigner : (entropy : Bytes) → Option Signer
  storeSigner : Signer → Storage → Option Unit × Storage
  toPublicVec : Signer → Bytes
  buildKeyPackage : (entropy : Bytes) → Signer → CredentialWithKey → Storage →
    Option KeyPackage × Storage
  serializeKeyPackage : KeyPackage → Option Bytes
  deserializeKeyPackage : Bytes → Option KeyPackage
  validate : KeyPackage → Bool
  serialize : MlsMessage Commit Proposal Application Welcome → Option Bytes
  deserialize : Bytes → Option (MlsMessage Commit Proposal Application Welcome)
  newWithGroupId : (entropy : Bytes) → Signer → (groupId : Bytes) →
    CredentialWithKey → Storage → Option Group × Storage
  newFromWelcome : Welcome → Storage → Option Group × Storage
  groupId : Group → Bytes
  epoch : Group → ℕ
  /-- The members of a group by leaf index and credential. -/
  members : Group → List (ℕ × Bytes)
  addMembers : (entropy : Bytes) → Signer → List KeyPackage → Session Group →
    Option (Commit × Welcome) × Session Group
  removeMembers : (entropy : Bytes) → Signer → List ℕ → Session Group →
    Option (Commit × Option Welcome) × Session Group
  selfUpdate : (entropy : Bytes) → Signer → Session Group →
    Option (Commit × Option Welcome) × Session Group
  mergePendingCommit : Session Group → Option Unit × Session Group
  proposeAddMember : (entropy : Bytes) → Signer → KeyPackage → Session Group →
    Option Proposal × Session Group
  proposeRemoveMember : (entropy : Bytes) → Signer → ℕ → Session Group →
    Option Proposal × Session Group
  createMessage : (entropy : Bytes) → Signer → (plaintext : Bytes) →
    Session Group → Option Application × Session Group
  processMessage : MlsMessage Commit Proposal Application Welcome →
    Session Group →
      Option (ProcessedMessageContent StagedCommit QueuedProposal) × Session Group
  mergeStagedCommit : StagedCommit → Session Group → Option Unit × Session Group
  storePendingProposal : QueuedProposal → Session Group →
    Option Unit × Session Group
  delete : Group → Storage → Option Unit × Storage

/-! ## Group states -/

/-- What the members of a group share about its state: where the group comes
from, since two groups can be created under one id, its epoch and the Commits
applied since its creation. -/
structure GroupContext (Commit : Type) where
  origin : Bytes
  epoch : ℕ
  transcript : List Commit
  deriving DecidableEq

namespace GroupContext

variable {Commit : Type}

/-- The state after one more Commit. -/
def next (context : GroupContext Commit) (commit : Commit) : GroupContext Commit where
  origin := context.origin
  epoch := context.epoch + 1
  transcript := context.transcript ++ [commit]

/-- The state of a group that has just been created. -/
def initial (origin : Bytes) : GroupContext Commit := ⟨origin, 0, []⟩

/-- Applying Commits one after the other. -/
theorem run_next (context : GroupContext Commit) (commits : List Commit) :
    run next context commits =
      ⟨context.origin, context.epoch + commits.length,
        context.transcript ++ commits⟩ := by
  induction commits generalizing context with
  | nil => simp
  | cons commit commits ih =>
      rw [run_cons, ih]
      simp [next, Nat.add_comm, Nat.add_left_comm]

end GroupContext

namespace OpenMls

abbrev Message (mls : OpenMls) :=
  MlsMessage mls.Commit mls.Proposal mls.Application mls.Welcome

/-- `add_members` with its Welcome, which is always there, in the form the other
Commits have it. -/
def addingMembers (mls : OpenMls) (entropy : Bytes) (signer : mls.Signer)
    (packages : List mls.KeyPackage) (session : Session mls.Group) :
    Option (mls.Commit × Option mls.Welcome) × Session mls.Group :=
  let (made, after) := mls.addMembers entropy signer packages session
  (made.map fun made => (made.1, some made.2), after)

/-- The operation leaves the state of the group as it is. -/
def Stays {Group Commit α : Type} (context : Group → GroupContext Commit)
    (operation : Session Group → Option α × Session Group) : Prop :=
  ∀ session, context (operation session).2.group = context session.group

/-- The operation makes Commits on the current state and keeps them pending; a
Welcome that comes with one invites to the state after it. -/
structure Commits {Group Commit Welcome : Type} (context : Group → GroupContext Commit)
    (pending : Group → Option Commit) (invitation : Welcome → GroupContext Commit)
    (operation : Session Group → Option (Commit × Option Welcome) × Session Group) :
    Prop where
  stays : Stays context operation
  pending : ∀ {session commit welcome},
    (operation session).1 = some (commit, welcome) →
      pending (operation session).2.group = some commit
  invites : ∀ {session commit welcome},
    (operation session).1 = some (commit, welcome) → ∀ invited ∈ welcome,
      invitation invited = (context session.group).next commit

/-- What is relied upon. -/
structure Semantics (mls : OpenMls) where
  context : mls.Group → GroupContext mls.Commit
  /-- The state a Commit was built on. -/
  base : mls.Commit → GroupContext mls.Commit
  /-- The state a Welcome lets its addressees in at. -/
  invitation : mls.Welcome → GroupContext mls.Commit
  /-- The Commit a group has made and not yet merged. -/
  pending : mls.Group → Option mls.Commit
  /-- The Commit that was staged. -/
  staged : mls.StagedCommit → mls.Commit
  deserialize_serialize : ∀ {message bytes}, mls.serialize message = some bytes →
    mls.deserialize bytes = some message
  epoch_eq : ∀ group, mls.epoch group = (context group).epoch
  created : ∀ {entropy signer groupId credential storage group},
    (mls.newWithGroupId entropy signer groupId credential storage).1 =
      some group → ∃ origin, context group = .initial origin
  joined : ∀ {welcome storage group},
    (mls.newFromWelcome welcome storage).1 = some group →
      context group = invitation welcome
  pending_base : ∀ {group commit}, pending group = some commit →
    base commit = context group
  addMembers_commits : ∀ entropy signer packages,
    Commits context pending invitation (mls.addingMembers entropy signer packages)
  removeMembers_commits : ∀ entropy signer leaves,
    Commits context pending invitation (mls.removeMembers entropy signer leaves)
  selfUpdate_commits : ∀ entropy signer,
    Commits context pending invitation (mls.selfUpdate entropy signer)
  mergePendingCommit_merges : ∀ {session commit},
    pending session.group = some commit →
      (mls.mergePendingCommit session).1 = some () →
        context (mls.mergePendingCommit session).2.group =
          (context session.group).next commit
  mergePendingCommit_refused : ∀ {session},
    (mls.mergePendingCommit session).1 = none →
      context (mls.mergePendingCommit session).2.group = context session.group
  proposeAddMember_stays : ∀ entropy signer package,
    Stays context (mls.proposeAddMember entropy signer package)
  proposeRemoveMember_stays : ∀ entropy signer leaf,
    Stays context (mls.proposeRemoveMember entropy signer leaf)
  createMessage_stays : ∀ entropy signer plaintext,
    Stays context (mls.createMessage entropy signer plaintext)
  processMessage_stays : ∀ message, Stays context (mls.processMessage message)
  processMessage_accepts : ∀ {message session commit},
    (mls.processMessage message session).1 = some (.stagedCommitMessage commit) →
      message = .commit (staged commit) ∧
        base (staged commit) = context session.group
  mergeStagedCommit_merges : ∀ {commit session},
    (mls.mergeStagedCommit commit session).1 = some () →
      context (mls.mergeStagedCommit commit session).2.group =
        (context session.group).next (staged commit)
  mergeStagedCommit_refused : ∀ {commit session},
    (mls.mergeStagedCommit commit session).1 = none →
      context (mls.mergeStagedCommit commit session).2.group =
        context session.group
  storePendingProposal_stays : ∀ proposal,
    Stays context (mls.storePendingProposal proposal)

end OpenMls

/-! ## A library that keeps only the sequence of Commits -/

namespace Ledger

/-- A group of a creator, named by two octets, after the Commits whose entropy
was `path`. -/
structure State where
  groupId : UInt8
  origin : UInt8
  path : Bytes
  deriving DecidableEq

/-- The state after a Commit stands for the Commit. -/
def State.after (state : State) (octet : UInt8) : State :=
  { state with path := state.path ++ [octet] }

structure Group where
  state : State
  pending : Option UInt8
  deriving DecidableEq

def State.context (state : State) : GroupContext State where
  origin := [state.groupId, state.origin]
  epoch := state.path.length
  transcript := (List.range state.path.length).map fun index =>
    { state with path := state.path.take (index + 1) }

theorem context_after (state : State) (octet : UInt8) :
    (state.after octet).context = state.context.next (state.after octet) := by
  simp only [State.after, State.context, GroupContext.next, List.length_append,
    List.length_singleton, List.range_succ, List.map_append, List.map_singleton]
  congr 2
  · apply List.map_congr_left
    intro index hindex
    rw [List.take_append_of_le_length]
    exact List.mem_range.mp hindex
  · rw [List.take_of_length_le]
    simp

/-- The Commit that extends the state, if this one does. -/
def accepts (state commit : State) : Bool :=
  commit = state.after (commit.path.getLastD 0)

/-- A Commit on the current state, kept pending. -/
def commitOn (entropy : Bytes) (session : Session Group) : State × Session Group :=
  (session.group.state.after (entropy.headD 0),
    { session with
      group := { session.group with pending := some (entropy.headD 0) } })

def merge (session : Session Group) (octet : UInt8) : Session Group :=
  { session with group := ⟨session.group.state.after octet, none⟩ }

def serialize : MlsMessage State Empty Bytes State → Option Bytes
  | .commit commit => some ([0, commit.groupId, commit.origin] ++ commit.path)
  | .welcome welcome => some ([1, welcome.groupId, welcome.origin] ++ welcome.path)
  | .application plaintext => some (2 :: plaintext)
  | .proposal proposal => proposal.elim
  | .other => none

def deserialize : Bytes → Option (MlsMessage State Empty Bytes State)
  | [] => none
  | tag :: bytes =>
      if tag = 2 then some (.application bytes)
      else
        match bytes with
        | groupId :: origin :: path =>
            if tag = 0 then some (.commit ⟨groupId, origin, path⟩)
            else if tag = 1 then some (.welcome ⟨groupId, origin, path⟩)
            else none
        | _ => none

end Ledger

open Ledger in
/-- Nothing is secret, no members are listed and no proposals are made. -/
def ledger : OpenMls where
  Signer := Bytes
  KeyPackage := Bytes
  Group := Group
  Commit := State
  Proposal := Empty
  Application := Bytes
  Welcome := State
  StagedCommit := State
  QueuedProposal := Empty
  newSigner := some
  storeSigner _ storage := (some (), storage)
  toPublicVec := id
  buildKeyPackage entropy _ _ storage := (some entropy, storage)
  serializeKeyPackage := some
  deserializeKeyPackage := some
  validate _ := true
  serialize := serialize
  deserialize := deserialize
  newWithGroupId entropy _ groupId _ storage :=
    (some ⟨⟨groupId.headD 0, entropy.headD 0, []⟩, none⟩, storage)
  newFromWelcome welcome storage := (some ⟨welcome, none⟩, storage)
  groupId group := [group.state.groupId]
  epoch group := group.state.path.length
  members _ := []
  addMembers entropy _ _ session :=
    let (made, after) := commitOn entropy session
    (some (made, made), after)
  removeMembers entropy _ _ session :=
    let (made, after) := commitOn entropy session
    (some (made, none), after)
  selfUpdate entropy _ session :=
    let (made, after) := commitOn entropy session
    (some (made, none), after)
  mergePendingCommit session :=
    (some (), session.group.pending.elim session (merge session))
  proposeAddMember _ _ _ session := (none, session)
  proposeRemoveMember _ _ _ session := (none, session)
  createMessage _ _ plaintext session := (some plaintext, session)
  processMessage message session :=
    match message with
    | .commit commit =>
        (if accepts session.group.state commit then
            some (.stagedCommitMessage commit) else none, session)
    | .application plaintext => (some (.applicationMessage plaintext), session)
    | _ => (none, session)
  mergeStagedCommit commit session :=
    if accepts session.group.state commit then
      (some (), merge session (commit.path.getLastD 0))
    else (none, session)
  storePendingProposal proposal := proposal.elim
  delete _ storage := (some (), storage)

namespace Ledger

theorem base_after (state : State) (octet : UInt8) :
    State.context { state.after octet with path := (state.after octet).path.dropLast } =
      state.context := by
  simp [State.after]

theorem eq_after_of_accepts {state commit : State}
    (haccepts : accepts state commit = true) :
    commit = state.after (commit.path.getLastD 0) := by
  simpa [accepts] using haccepts

/-- The three ways to make a Commit differ in the Welcome. -/
theorem commits_of_commitOn (entropy : Bytes)
    {operation : Session Group → Option (State × Option State) × Session Group}
    (hoperation : ∀ session, ∃ welcome, operation session =
        (some ((commitOn entropy session).1, welcome), (commitOn entropy session).2) ∧
      ∀ invited ∈ welcome, invited = (commitOn entropy session).1) :
    OpenMls.Commits (fun group : Group => group.state.context)
      (fun group : Group => group.pending.map group.state.after) State.context
      operation := by
  constructor
  · intro session
    obtain ⟨welcome, hsession, -⟩ := hoperation session
    rw [hsession]
    rfl
  · intro session commit welcome hmade
    obtain ⟨_, hsession, -⟩ := hoperation session
    rw [hsession] at hmade ⊢
    cases hmade
    rfl
  · intro session commit welcome hmade invited hinvited
    obtain ⟨_, hsession, hwelcome⟩ := hoperation session
    rw [hsession] at hmade
    cases hmade
    rw [hwelcome invited hinvited]
    exact context_after _ _

theorem mergeStagedCommit_cases (commit : State) (session : Session Group) :
    (accepts session.group.state commit = true ∧
        ledger.mergeStagedCommit commit session =
          (some (), merge session (commit.path.getLastD 0))) ∨
      ledger.mergeStagedCommit commit session = (none, session) := by
  by_cases haccepts : accepts session.group.state commit
  · exact .inl ⟨haccepts, if_pos haccepts⟩
  · exact .inr (if_neg haccepts)

end Ledger

open Ledger in
def ledgerSemantics : ledger.Semantics where
  context := fun group : Group => group.state.context
  base := fun commit : State =>
    State.context { commit with path := commit.path.dropLast }
  invitation := State.context
  pending := fun group : Group => group.pending.map group.state.after
  staged := id
  deserialize_serialize := by
    intro message bytes hbytes
    cases message with
    | proposal proposal => exact proposal.elim
    | other => cases hbytes
    | _ =>
        cases hbytes
        rfl
  epoch_eq := fun _ => rfl
  created := by
    intro entropy signer groupId credential storage group hcreated
    cases hcreated
    exact ⟨_, rfl⟩
  joined := by
    intro welcome storage group hjoined
    cases hjoined
    rfl
  pending_base := by
    rintro ⟨state, _ | octet⟩ commit hpending
    · cases hpending
    · cases hpending
      exact base_after state octet
  addMembers_commits := fun entropy _ _ =>
    commits_of_commitOn entropy fun session =>
      ⟨some (commitOn entropy session).1, rfl, by simp⟩
  removeMembers_commits := fun entropy _ _ =>
    commits_of_commitOn entropy fun _ => ⟨none, rfl, by simp⟩
  selfUpdate_commits := fun entropy _ =>
    commits_of_commitOn entropy fun _ => ⟨none, rfl, by simp⟩
  mergePendingCommit_merges := by
    rintro ⟨storage, state, _ | octet⟩ commit hpending -
    · cases hpending
    · cases hpending
      exact context_after state octet
  mergePendingCommit_refused := by
    intro session hrefused
    cases hrefused
  proposeAddMember_stays := fun _ _ _ _ => rfl
  proposeRemoveMember_stays := fun _ _ _ _ => rfl
  createMessage_stays := fun _ _ _ _ => rfl
  processMessage_stays := by
    intro message session
    cases message <;> rfl
  processMessage_accepts := by
    intro message session commit hprocessed
    cases message with
    | commit received =>
        obtain ⟨haccepts, hstaged⟩ := Option.ite_none_right_eq_some.mp hprocessed
        cases hstaged
        refine ⟨rfl, ?_⟩
        change State.context { commit with path := List.dropLast commit.path } = _
        rw [eq_after_of_accepts haccepts]
        exact base_after _ _
    | _ => cases hprocessed
  mergeStagedCommit_merges := by
    intro commit session hmerged
    obtain ⟨haccepts, hafter⟩ | hafter := mergeStagedCommit_cases commit session
    · have hcommit := eq_after_of_accepts haccepts
      rw [hafter]
      calc
        (session.group.state.after (List.getLastD commit.path 0)).context =
            session.group.state.context.next
              (session.group.state.after (List.getLastD commit.path 0)) :=
          context_after _ _
        _ = session.group.state.context.next commit := by rw [← hcommit]
    · rw [hafter] at hmerged
      cases hmerged
  mergeStagedCommit_refused := by
    intro commit session hrefused
    obtain ⟨haccepts, hafter⟩ | hafter := mergeStagedCommit_cases commit session
    · rw [hafter] at hrefused
      cases hrefused
    · rw [hafter]
  storePendingProposal_stays := fun proposal => proposal.elim

end ResilientMessenger
