import ResilientMessenger.Core.Aead
import ResilientMessenger.Core.Attempts
import ResilientMessenger.Crypto.OpenMls

/-!
# The crypto engine of a device

One engine is one member: it owns its provider and signer and the groups it
takes part in.  A Commit of its own is merged in the same call that makes it,
before anybody else has seen it; the Commits of others are merged when OpenMLS
accepts them.  Errors leave the engine as far as it got.
-/

namespace ResilientMessenger.Engine

open ResilientMessenger.ByteCodec
open ResilientMessenger.Attempts

inductive CryptoError where
  | openMls (operation : String)
  | invalidMessage
  | conversationNotFound
  | invalidCredential
  | stateAuthentication
  deriving DecidableEq

structure MemberCredential where
  deviceId : Id16
  accountId : Id32
  certificateFingerprint : Id16
  deriving DecidableEq

def MemberCredential.encode (member : MemberCredential) : Bytes :=
  [1] ++ member.deviceId.toList ++ member.accountId.toList ++
    member.certificateFingerprint.toList

structure GroupChange where
  commit : Bytes
  welcome : Option Bytes
  deriving DecidableEq

inductive IncomingMessage where
  | application (plaintext : Bytes)
  | commitApplied
  | proposalQueued
  deriving DecidableEq

structure CryptoEngine (mls : OpenMls) where
  storage : Storage
  signer : mls.Signer
  credential : CredentialWithKey
  groups : Bytes → Option mls.Group
  stateKey : Key

abbrev EngineCall (mls : OpenMls) := Attempt CryptoError (CryptoEngine mls)

/-- A call on one group of the engine. -/
abbrev GroupCall (mls : OpenMls) := Attempt CryptoError (Session mls.Group)

variable {mls : OpenMls}

def initializeCryptoStore (mls : OpenMls) (entropy : Bytes)
    (member : MemberCredential) (stateKey : Key) :
    Except CryptoError (CryptoEngine mls) :=
  match mls.newSigner entropy with
  | none => .error (.openMls "signature key generation")
  | some signer =>
      match mls.storeSigner signer Table.empty with
      | (none, _) => .error (.openMls "signature key storage")
      | (some _, storage) =>
          .ok
            { storage
              signer
              credential := ⟨member.encode, mls.toPublicVec signer⟩
              groups := fun _ => none
              stateKey }

/-! ## Access to the store and to a group -/

/-- An operation on the store of the provider. -/
def onStorage {α : Type} (operation : CryptoEngine mls → Storage → Option α × Storage)
    (engine : CryptoEngine mls) : Option α × CryptoEngine mls :=
  let (value, storage) := operation engine engine.storage
  (value, { engine with storage })

def insertGroup (groupId : Bytes) (group : mls.Group) : EngineCall mls Unit :=
  fun engine =>
    (.ok (), { engine with groups := Function.update engine.groups groupId (some group) })

/-- `self.groups.get_mut(group_id).ok_or(ConversationNotFound)` and what is then
done with the group. -/
def onGroup {α : Type} (groupId : Bytes) (body : mls.Signer → GroupCall mls α) :
    EngineCall mls α := fun engine =>
  match engine.groups groupId with
  | none => (.error .conversationNotFound, engine)
  | some group =>
      let (outcome, session) := body engine.signer ⟨engine.storage, group⟩
      (outcome,
        { engine with
          storage := session.storage
          groups := Function.update engine.groups groupId (some session.group) })

theorem onGroup_of_none {α : Type} {groupId : Bytes}
    {body : mls.Signer → GroupCall mls α} {engine : CryptoEngine mls}
    (hgroup : engine.groups groupId = none) :
    onGroup groupId body engine = (.error .conversationNotFound, engine) := by
  simp only [onGroup, hgroup]

theorem onGroup_of_some {α : Type} {groupId : Bytes}
    {body : mls.Signer → GroupCall mls α} {engine : CryptoEngine mls}
    {group : mls.Group} (hgroup : engine.groups groupId = some group) :
    onGroup groupId body engine =
      ((body engine.signer ⟨engine.storage, group⟩).1,
        { engine with
          storage := (body engine.signer ⟨engine.storage, group⟩).2.storage
          groups := Function.update engine.groups groupId
            (some (body engine.signer ⟨engine.storage, group⟩).2.group) }) := by
  simp only [onGroup, hgroup]

/-! ## Key packages -/

def buildKeyPackage (entropy : Bytes) : EngineCall mls Bytes := do
  let package ← attempt (.openMls "key package generation")
    (onStorage fun engine =>
      mls.buildKeyPackage entropy engine.signer engine.credential)
  need (.openMls "key package serialization") (mls.serializeKeyPackage package)

def buildKeyPackages (entropy : ℕ → Bytes) : ℕ → EngineCall mls (List Bytes)
  | 0 => pure []
  | count + 1 => do
      let packages ← buildKeyPackages entropy count
      let package ← buildKeyPackage (entropy count)
      pure (packages ++ [package])

def generateKeyPackages (entropy : ℕ → Bytes) (count : ℕ) :
    EngineCall mls (List Bytes) :=
  buildKeyPackages entropy (min count 100)

def validKeyPackage (mls : OpenMls) (bytes : Bytes) : Option mls.KeyPackage :=
  (mls.deserializeKeyPackage bytes).filter mls.validate

/-! ## Conversations -/

def createConversation (entropy groupId : Bytes) : EngineCall mls Unit := do
  need .invalidMessage (if groupId = [] ∨ 255 < groupId.length then none else some ())
  let group ← attempt (.openMls "group creation")
    (onStorage fun engine =>
      mls.newWithGroupId entropy engine.signer groupId engine.credential)
  insertGroup groupId group

def asWelcome : mls.Message → Option mls.Welcome
  | .welcome welcome => some welcome
  | _ => none

def joinConversationFromWelcome (welcome : Bytes) : EngineCall mls Bytes := do
  let message ← need .invalidMessage (mls.deserialize welcome)
  let welcome ← need .invalidMessage (asWelcome message)
  let group ← attempt .invalidMessage
    (onStorage fun _ => mls.newFromWelcome welcome)
  insertGroup (mls.groupId group) group
  pure (mls.groupId group)

/-- A Commit is made and merged. -/
def commitMerged (creating merging : String)
    (create : Session mls.Group →
      Option (mls.Commit × Option mls.Welcome) × Session mls.Group) :
    GroupCall mls (mls.Commit × Option mls.Welcome) := do
  let made ← attempt (.openMls creating) create
  attempt (.openMls merging) mls.mergePendingCommit
  pure made

def groupChange (made : mls.Commit × Option mls.Welcome) : GroupCall mls GroupChange := do
  let commit ← need (.openMls "commit serialization")
    (mls.serialize (.commit made.1))
  let welcome ← need (.openMls "welcome serialization")
    (made.2.mapM fun welcome => mls.serialize (.welcome welcome))
  pure ⟨commit, welcome⟩

def commitAddMembers (entropy groupId : Bytes) (keyPackages : List Bytes) :
    EngineCall mls GroupChange := do
  let packages ← need .invalidMessage (keyPackages.mapM (validKeyPackage mls))
  onGroup groupId fun signer => do
    let made ← commitMerged "add member commit" "merge add commit"
      (mls.addingMembers entropy signer packages)
    groupChange made

/-- The leaf of a member. -/
def leafOf (member : MemberCredential) (session : Session mls.Group) : Option ℕ :=
  ((mls.members session.group).find? fun candidate =>
    candidate.2 = member.encode).map Prod.fst

def commitRemoveMembers (entropy groupId : Bytes) (member : MemberCredential) :
    EngineCall mls GroupChange :=
  onGroup groupId fun signer => do
    let found ← read (leafOf member)
    let leaf ← need .invalidCredential found
    let made ← commitMerged "remove member commit" "merge remove commit"
      (mls.removeMembers entropy signer [leaf])
    groupChange made

def selfUpdate (entropy groupId : Bytes) : EngineCall mls Bytes :=
  onGroup groupId fun signer => do
    let made ← commitMerged "self update" "merge self update"
      (mls.selfUpdate entropy signer)
    need (.openMls "self update serialization") (mls.serialize (.commit made.1))

def proposeAddMembers (entropy groupId keyPackage : Bytes) : EngineCall mls Bytes := do
  let package ← need .invalidMessage (validKeyPackage mls keyPackage)
  onGroup groupId fun signer => do
    let proposal ← attempt (.openMls "add proposal")
      (mls.proposeAddMember entropy signer package)
    need (.openMls "proposal serialization") (mls.serialize (.proposal proposal))

def proposeRemoveMembers (entropy groupId : Bytes) (member : MemberCredential) :
    EngineCall mls Bytes :=
  onGroup groupId fun signer => do
    let found ← read (leafOf member)
    let leaf ← need .invalidCredential found
    let proposal ← attempt (.openMls "remove proposal")
      (mls.proposeRemoveMember entropy signer leaf)
    need (.openMls "proposal serialization") (mls.serialize (.proposal proposal))

def encryptApplicationMessage (entropy groupId plaintext : Bytes) :
    EngineCall mls Bytes :=
  onGroup groupId fun signer => do
    let application ← attempt (.openMls "application encryption")
      (mls.createMessage entropy signer plaintext)
    need (.openMls "message serialization")
      (mls.serialize (.application application))

/-- Public and private messages of a group. -/
def tryIntoProtocolMessage : mls.Message → Option mls.Message
  | .commit commit => some (.commit commit)
  | .proposal proposal => some (.proposal proposal)
  | .application application => some (.application application)
  | _ => none

def applyContent :
    ProcessedMessageContent mls.StagedCommit mls.QueuedProposal →
      GroupCall mls IncomingMessage
  | .applicationMessage plaintext => pure (.application plaintext)
  | .stagedCommitMessage commit => do
      attempt (.openMls "merge incoming commit") (mls.mergeStagedCommit commit)
      pure .commitApplied
  | .proposalMessage proposal => do
      attempt (.openMls "store proposal") (mls.storePendingProposal proposal)
      pure .proposalQueued
  | .externalJoinProposalMessage _ => need .invalidMessage none

def processIncomingMessage (groupId ciphertext : Bytes) :
    EngineCall mls IncomingMessage := do
  let message ← need .invalidMessage (mls.deserialize ciphertext)
  let protocol ← need .invalidMessage (tryIntoProtocolMessage message)
  onGroup groupId fun _ => do
    let processed ← attempt .invalidMessage (mls.processMessage protocol)
    applyContent processed

def getConversationEpoch (groupId : Bytes) (engine : CryptoEngine mls) :
    Except CryptoError ℕ :=
  match engine.groups groupId with
  | none => .error .conversationNotFound
  | some group => .ok (mls.epoch group)

def destroyLocalConversationState (groupId : Bytes) : EngineCall mls Unit :=
  fun engine =>
    match engine.groups groupId with
    | none => (.error .conversationNotFound, engine)
    | some group =>
        attempt (.openMls "group deletion") (onStorage fun _ => mls.delete group)
          { engine with groups := Function.update engine.groups groupId none }

end ResilientMessenger.Engine
