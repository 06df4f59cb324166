import ResilientMessenger.Crypto.Engine

/-!
# What a call does to the group states

An engine is seen as the table of the states of its groups.  Whatever is called
and however the call ends, at most one entry of the table changes, and it
changes in one of five ways; `perform_effect` says which, what the call returned
with it and what it had received.
-/

namespace ResilientMessenger.Contexts

open ResilientMessenger.ByteCodec
open ResilientMessenger.Attempts
open ResilientMessenger.Engine
open Function (update)

/-- The calls of an engine. -/
inductive Operation where
  | generateKeyPackages (entropy : ℕ → Bytes) (count : ℕ)
  | createConversation (entropy groupId : Bytes)
  | joinConversationFromWelcome (welcome : Bytes)
  | commitAddMembers (entropy groupId : Bytes) (keyPackages : List Bytes)
  | commitRemoveMembers (entropy groupId : Bytes) (member : MemberCredential)
  | selfUpdate (entropy groupId : Bytes)
  | proposeAddMembers (entropy groupId keyPackage : Bytes)
  | proposeRemoveMembers (entropy groupId : Bytes) (member : MemberCredential)
  | encryptApplicationMessage (entropy groupId plaintext : Bytes)
  | processIncomingMessage (groupId ciphertext : Bytes)
  | destroyLocalConversationState (groupId : Bytes)

namespace Operation

/-- The message the call is given. -/
def received : Operation → Option Bytes
  | joinConversationFromWelcome welcome => some welcome
  | processIncomingMessage _ ciphertext => some ciphertext
  | _ => none

/-- The group the call makes a Commit in. -/
def commitsIn : Operation → Option Bytes
  | commitAddMembers _ groupId _ => some groupId
  | commitRemoveMembers _ groupId _ => some groupId
  | selfUpdate _ groupId => some groupId
  | _ => none

end Operation

def messages (change : GroupChange) : List Bytes :=
  change.commit :: change.welcome.toList

section Calls

variable {mls : OpenMls}

/-- The messages in the answer of a call, and the engine after it. -/
def answer {α : Type} (messagesOf : α → List Bytes)
    (outcome : Except CryptoError α × CryptoEngine mls) :
    List Bytes × CryptoEngine mls :=
  (match outcome.1 with
    | .ok value => messagesOf value
    | .error _ => [],
    outcome.2)

def perform (operation : Operation) (engine : CryptoEngine mls) :
    List Bytes × CryptoEngine mls :=
  match operation with
  | .generateKeyPackages entropy count =>
      answer (fun _ => []) (generateKeyPackages entropy count engine)
  | .createConversation entropy groupId =>
      answer (fun _ => []) (createConversation entropy groupId engine)
  | .joinConversationFromWelcome welcome =>
      answer (fun _ => []) (joinConversationFromWelcome welcome engine)
  | .commitAddMembers entropy groupId keyPackages =>
      answer messages (commitAddMembers entropy groupId keyPackages engine)
  | .commitRemoveMembers entropy groupId member =>
      answer messages (commitRemoveMembers entropy groupId member engine)
  | .selfUpdate entropy groupId =>
      answer (fun commit => [commit]) (selfUpdate entropy groupId engine)
  | .proposeAddMembers entropy groupId keyPackage =>
      answer (fun proposal => [proposal])
        (proposeAddMembers entropy groupId keyPackage engine)
  | .proposeRemoveMembers entropy groupId member =>
      answer (fun proposal => [proposal])
        (proposeRemoveMembers entropy groupId member engine)
  | .encryptApplicationMessage entropy groupId plaintext =>
      answer (fun message => [message])
        (encryptApplicationMessage entropy groupId plaintext engine)
  | .processIncomingMessage groupId ciphertext =>
      answer (fun _ => []) (processIncomingMessage groupId ciphertext engine)
  | .destroyLocalConversationState groupId =>
      answer (fun _ => []) (destroyLocalConversationState groupId engine)

end Calls

/-! ## Effects on the table of group states -/

variable {mls : OpenMls} (semantics : mls.Semantics)

abbrev States (mls : OpenMls) := Bytes → Option (GroupContext mls.Commit)

/-- The states of the groups an engine takes part in. -/
def contexts (engine : CryptoEngine mls) : States mls :=
  fun groupId => (engine.groups groupId).map semantics.context

/-- The bytes are the Commit or a Welcome that was made with it. -/
def Carries (commit : mls.Commit) (bytes : Bytes) : Prop :=
  mls.deserialize bytes = some (.commit commit) ∨
    ∃ welcome, mls.deserialize bytes = some (.welcome welcome) ∧
      semantics.invitation welcome = (semantics.base commit).next commit

/-- The bytes are a proposal or an application message. -/
def Inert (mls : OpenMls) (bytes : Bytes) : Prop :=
  (∃ proposal, mls.deserialize bytes = some (.proposal proposal)) ∨
    ∃ application, mls.deserialize bytes = some (.application application)

/-- What a call can do to the table and return. -/
inductive Effect (operation : Operation) (table : States mls) :
    (returned : List Bytes) → (after : States mls) → Prop where
  | stays {returned : List Bytes} (hinert : ∀ bytes ∈ returned, Inert mls bytes) :
      Effect operation table returned table
  | creates (groupId origin : Bytes) :
      Effect operation table [] (update table groupId (some (.initial origin)))
  | joins (groupId bytes : Bytes) (welcome : mls.Welcome)
      (hreceived : operation.received = some bytes)
      (hmessage : mls.deserialize bytes = some (.welcome welcome)) :
      Effect operation table []
        (update table groupId (some (semantics.invitation welcome)))
  | commits {returned : List Bytes} (groupId : Bytes) (commit : mls.Commit)
      (hoperation : operation.commitsIn = some groupId)
      (hbase : table groupId = some (semantics.base commit))
      (hcarries : ∀ bytes ∈ returned, Carries semantics commit bytes) :
      Effect operation table returned
        (update table groupId (some ((semantics.base commit).next commit)))
  | accepts (groupId bytes : Bytes) (commit : mls.Commit)
      (hreceived : operation.received = some bytes)
      (hmessage : mls.deserialize bytes = some (.commit commit))
      (hbase : table groupId = some (semantics.base commit)) :
      Effect operation table []
        (update table groupId (some ((semantics.base commit).next commit)))
  | leaves (groupId : Bytes) :
      Effect operation table [] (update table groupId none)

/-- The effect of a call that leaves a group as it is in the session. -/
def EffectOn (operation : Operation) (table : States mls) (groupId : Bytes)
    (returned : List Bytes) (session : Session mls.Group) : Prop :=
  Effect semantics operation table returned
    (update table groupId (some (semantics.context session.group)))

variable {semantics} {operation : Operation} {table : States mls} {groupId : Bytes}
variable {α : Type}

theorem contexts_of_group {engine : CryptoEngine mls} {group : mls.Group}
    (hgroup : engine.groups groupId = some group) :
    contexts semantics engine groupId = some (semantics.context group) := by
  rw [contexts, hgroup]
  rfl

theorem contexts_update (engine : CryptoEngine mls) (storage : Storage)
    (groupId : Bytes) (group : Option mls.Group) :
    contexts semantics
        { engine with storage, groups := update engine.groups groupId group } =
      update (contexts semantics engine) groupId (group.map semantics.context) := by
  funext other
  by_cases hother : other = groupId
  · subst hother
    simp [contexts]
  · simp [contexts, hother]

/-- A call on a group changes the entry of this group. -/
theorem triple_onGroup {body : mls.Signer → GroupCall mls α}
    {Q : α → States mls → Prop} {E : States mls → Prop} (hmissing : E table)
    (hbody : ∀ signer context, table groupId = some context →
      Triple (fun session => semantics.context session.group = context)
        (body signer)
        (fun value session =>
          Q value (update table groupId (some (semantics.context session.group))))
        (fun session =>
          E (update table groupId (some (semantics.context session.group))))) :
    Triple (fun engine => contexts semantics engine = table) (onGroup groupId body)
      (fun value engine => Q value (contexts semantics engine))
      (fun engine => E (contexts semantics engine)) := by
  intro engine hengine
  cases hgroup : engine.groups groupId with
  | none =>
      rw [onGroup_of_none hgroup]
      apply ends_of_error
      rw [hengine]
      exact hmissing
  | some group =>
      have hentry : table groupId = some (semantics.context group) := by
        rw [← hengine]
        exact contexts_of_group hgroup
      obtain ⟨hok, herror⟩ := hbody engine.signer (semantics.context group) hentry
        ⟨engine.storage, group⟩ rfl
      rw [onGroup_of_some hgroup]
      generalize body engine.signer ⟨engine.storage, group⟩ = outcome at hok herror ⊢
      obtain ⟨result, session⟩ := outcome
      constructor
      · intro value after hpair
        cases hpair
        rw [contexts_update, hengine]
        exact hok value session rfl
      · intro failure after hpair
        cases hpair
        rw [contexts_update, hengine]
        exact herror failure session rfl

/-! ## Calls on one group -/

section Groups

variable {context : GroupContext mls.Commit}

/-- The Commit was made on the state and merged. -/
structure Merged (semantics : mls.Semantics) (context : GroupContext mls.Commit)
    (made : mls.Commit × Option mls.Welcome) (session : Session mls.Group) :
    Prop where
  base : semantics.base made.1 = context
  after : semantics.context session.group = context.next made.1
  invites : ∀ welcome ∈ made.2, semantics.invitation welcome = context.next made.1

theorem commitMerged_spec {creating merging : String}
    {create : Session mls.Group →
      Option (mls.Commit × Option mls.Welcome) × Session mls.Group}
    (hcreate : OpenMls.Commits semantics.context semantics.pending
      semantics.invitation create)
    {E : Session mls.Group → Prop}
    (hstays : ∀ session, semantics.context session.group = context → E session) :
    Triple (fun session => semantics.context session.group = context)
      (commitMerged creating merging create) (Merged semantics context) E := by
  apply triple_bind
  · apply triple_attempt
      (Q := fun made session => semantics.context session.group = context ∧
        semantics.pending session.group = some made.1 ∧
        ∀ welcome ∈ made.2, semantics.invitation welcome = context.next made.1)
    · rintro session ⟨commit, welcome⟩ rfl hmade
      exact ⟨hcreate.stays session, hcreate.pending hmade, hcreate.invites hmade⟩
    · rintro session rfl -
      exact hstays _ (hcreate.stays session)
  · intro made
    apply triple_bind (Q := fun _ => Merged semantics context made)
    · apply triple_attempt
      · rintro session _ ⟨rfl, hpending, hinvites⟩ hmerged
        exact ⟨semantics.pending_base hpending,
          semantics.mergePendingCommit_merges hpending hmerged, hinvites⟩
      · rintro session ⟨rfl, -, -⟩ hrefused
        exact hstays _ (semantics.mergePendingCommit_refused hrefused)
    · intro _
      apply triple_pure
      intro session hmerged
      exact hmerged

/-- The effect of a Commit that was merged, whatever of it is returned. -/
theorem Merged.effect {made : mls.Commit × Option mls.Welcome}
    {session : Session mls.Group} (hmerged : Merged semantics context made session)
    (hoperation : operation.commitsIn = some groupId)
    (hentry : table groupId = some context) {returned : List Bytes}
    (hcarries : ∀ bytes ∈ returned, Carries semantics made.1 bytes) :
    EffectOn semantics operation table groupId returned session := by
  unfold EffectOn
  rw [hmerged.after, ← hmerged.base]
  rw [← hmerged.base] at hentry
  exact .commits groupId made.1 hoperation hentry hcarries

/-- A state that stays needs no entry of its own. -/
theorem effect_stays {session : Session mls.Group}
    (hentry : table groupId = some context)
    (hstays : semantics.context session.group = context) {returned : List Bytes}
    (hinert : ∀ bytes ∈ returned, Inert mls bytes) :
    EffectOn semantics operation table groupId returned session := by
  unfold EffectOn
  rw [hstays, ← hentry, Function.update_eq_self]
  exact .stays hinert

theorem effect_nothing (hentry : table groupId = some context)
    (session : Session mls.Group) (hstays : semantics.context session.group = context) :
    EffectOn semantics operation table groupId [] session :=
  effect_stays hentry hstays (by simp)

theorem mem_of_mapM_eq_some {welcome : Option mls.Welcome} {result : Option Bytes}
    {f : mls.Welcome → Option Bytes} (hresult : welcome.mapM f = some result)
    {bytes : Bytes} (hbytes : bytes ∈ result) :
    ∃ invited ∈ welcome, f invited = some bytes := by
  cases welcome with
  | none =>
      cases hresult
      cases hbytes
  | some invited =>
      refine ⟨invited, rfl, ?_⟩
      have hfound : ∃ found, f invited = some found ∧ some found = result := by
        simpa using hresult
      obtain ⟨found, hinvited, rfl⟩ := hfound
      cases hbytes
      exact hinvited

theorem groupChange_spec (made : mls.Commit × Option mls.Welcome)
    (hoperation : operation.commitsIn = some groupId)
    (hentry : table groupId = some context) :
    Triple (Merged semantics context made) (groupChange made)
      (fun change => EffectOn semantics operation table groupId (messages change))
      (EffectOn semantics operation table groupId []) := by
  have hnothing : ∀ session, Merged semantics context made session →
      EffectOn semantics operation table groupId [] session := by
    intro session hmerged
    exact hmerged.effect hoperation hentry (by simp)
  apply triple_bind (Q := fun commit session =>
    Merged semantics context made session ∧
      mls.deserialize commit = some (.commit made.1))
  · apply triple_need _ hnothing
    intro session commit hmerged hcommit
    exact ⟨hmerged, semantics.deserialize_serialize hcommit⟩
  intro commit
  apply triple_bind (Q := fun welcome session =>
    Merged semantics context made session ∧
      mls.deserialize commit = some (.commit made.1) ∧
      ∀ bytes ∈ welcome, Carries semantics made.1 bytes)
  · apply triple_need
    · rintro session welcome ⟨hmerged, hcommit⟩ hwelcome
      refine ⟨hmerged, hcommit, ?_⟩
      intro bytes hbytes
      obtain ⟨invited, hinvited, hserialized⟩ :=
        mem_of_mapM_eq_some hwelcome hbytes
      exact .inr ⟨invited, semantics.deserialize_serialize hserialized,
        by rw [hmerged.base, hmerged.invites invited hinvited]⟩
    · rintro session ⟨hmerged, -⟩
      exact hnothing session hmerged
  intro welcome
  apply triple_pure
  rintro session ⟨hmerged, hcommit, hwelcome⟩
  apply hmerged.effect hoperation hentry
  intro bytes hbytes
  rcases List.mem_cons.mp hbytes with rfl | hbytes
  · exact .inl hcommit
  · exact hwelcome bytes (Option.mem_toList.mp hbytes)

/-- An operation that only makes a message leaves the state alone. -/
theorem message_spec {failure serialization : CryptoError}
    {make : Session mls.Group → Option α × Session mls.Group}
    {message : α → mls.Message} (hmake : OpenMls.Stays semantics.context make)
    (hinert : ∀ value bytes, mls.deserialize bytes = some (message value) →
      Inert mls bytes)
    (hentry : table groupId = some context) :
    Triple (fun session => semantics.context session.group = context)
      (do
        let value ← attempt failure make
        need serialization (mls.serialize (message value)))
      (fun bytes => EffectOn semantics operation table groupId [bytes])
      (EffectOn semantics operation table groupId []) := by
  apply triple_bind
    (Q := fun _ session => semantics.context session.group = context)
  · apply triple_attempt
    · rintro session value rfl -
      exact hmake session
    · rintro session rfl -
      exact effect_nothing hentry _ (hmake session)
  · intro value
    apply triple_need _ (effect_nothing hentry)
    intro session bytes hstays hbytes
    apply effect_stays hentry hstays
    intro other hother
    rw [List.mem_singleton.mp hother]
    exact hinert value bytes (semantics.deserialize_serialize hbytes)

/-- Looking up the leaf of a member changes nothing. -/
theorem leafOf_spec {member : MemberCredential} {next : ℕ → GroupCall mls α}
    {Q : α → Session mls.Group → Prop} {E : Session mls.Group → Prop}
    (hstays : ∀ session, semantics.context session.group = context → E session)
    (hnext : ∀ leaf,
      Triple (fun session => semantics.context session.group = context)
        (next leaf) Q E) :
    Triple (fun session => semantics.context session.group = context)
      (do
        let found ← read (leafOf member)
        let leaf ← need .invalidCredential found
        next leaf) Q E := by
  apply triple_bind
    (Q := fun _ session => semantics.context session.group = context)
  · apply triple_read
    intro session hsession
    exact hsession
  · intro found
    apply triple_bind
      (Q := fun _ session => semantics.context session.group = context)
    · apply triple_need _ hstays
      intro session leaf hsession _
      exact hsession
    · exact hnext

theorem applyContent_spec {ciphertext : Bytes} {message : mls.Message}
    (hreceived : operation.received = some ciphertext)
    (hmessage : mls.deserialize ciphertext = some message)
    (hentry : table groupId = some context)
    (content : ProcessedMessageContent mls.StagedCommit mls.QueuedProposal)
    (haccepts : ∀ commit, content = .stagedCommitMessage commit →
      message = .commit (semantics.staged commit) ∧
        semantics.base (semantics.staged commit) = context) :
    Triple (fun session => semantics.context session.group = context)
      (applyContent content)
      (fun _ => EffectOn semantics operation table groupId [])
      (EffectOn semantics operation table groupId []) := by
  cases content with
  | applicationMessage plaintext => exact triple_pure (effect_nothing hentry)
  | proposalMessage proposal =>
      apply triple_bind
        (Q := fun _ session => semantics.context session.group = context)
      · apply triple_attempt
        · rintro session _ rfl -
          exact semantics.storePendingProposal_stays proposal session
        · rintro session rfl -
          exact effect_nothing hentry _
            (semantics.storePendingProposal_stays proposal session)
      · intro _
        exact triple_pure (effect_nothing hentry)
  | externalJoinProposalMessage proposal =>
      apply triple_need _ (effect_nothing hentry)
      intro session value _ hvalue
      cases hvalue
  | stagedCommitMessage commit =>
      obtain ⟨rfl, hbase⟩ := haccepts commit rfl
      apply triple_bind
        (Q := fun _ => EffectOn semantics operation table groupId [])
      · apply triple_attempt
        · rintro session _ hstays hmerged
          unfold EffectOn
          rw [semantics.mergeStagedCommit_merges hmerged, hstays, ← hbase]
          apply Effect.accepts groupId ciphertext _ hreceived hmessage
          rw [hbase, hentry]
        · intro session hstays hrefused
          apply effect_nothing hentry
          rw [semantics.mergeStagedCommit_refused hrefused, hstays]
      · intro _
        apply triple_pure
        intro session heffect
        exact heffect

theorem process_spec {ciphertext : Bytes} {message : mls.Message}
    (hreceived : operation.received = some ciphertext)
    (hmessage : mls.deserialize ciphertext = some message)
    (hentry : table groupId = some context) :
    Triple (fun session => semantics.context session.group = context)
      (do
        let processed ← attempt .invalidMessage (mls.processMessage message)
        applyContent processed)
      (fun _ => EffectOn semantics operation table groupId [])
      (EffectOn semantics operation table groupId []) := by
  apply triple_bind (Q := fun content session =>
    semantics.context session.group = context ∧
      ∀ commit, content = .stagedCommitMessage commit →
        message = .commit (semantics.staged commit) ∧
          semantics.base (semantics.staged commit) = context)
  · apply triple_attempt
    · rintro session content rfl hprocessed
      refine ⟨semantics.processMessage_stays message session, ?_⟩
      rintro commit rfl
      exact semantics.processMessage_accepts hprocessed
    · rintro session rfl -
      exact effect_nothing hentry _ (semantics.processMessage_stays message session)
  · rintro content session ⟨hstays, haccepts⟩
    exact applyContent_spec hreceived hmessage hentry content haccepts session hstays

end Groups

/-! ## Calls of the engine -/

/-- Whatever the states before, the call has an effect the operation allows. -/
def Performs (semantics : mls.Semantics) (operation : Operation)
    (call : EngineCall mls α) (messagesOf : α → List Bytes) : Prop :=
  ∀ table, Triple (fun engine => contexts semantics engine = table) call
    (fun value engine => Effect semantics operation table (messagesOf value)
      (contexts semantics engine))
    (fun engine => Effect semantics operation table [] (contexts semantics engine))

theorem Performs.answer_effect {call : EngineCall mls α} {messagesOf : α → List Bytes}
    (hperforms : Performs semantics operation call messagesOf)
    (engine : CryptoEngine mls) :
    Effect semantics operation (contexts semantics engine)
      (answer messagesOf (call engine)).1
      (contexts semantics (answer messagesOf (call engine)).2) := by
  obtain ⟨hok, herror⟩ := hperforms (contexts semantics engine) engine rfl
  unfold answer
  rcases houtcome : call engine with ⟨failure | value, after⟩
  · exact herror failure after houtcome
  · exact hok value after houtcome

/-- A missing argument is noticed before anything changes. -/
theorem performs_need {β : Type} {failure : CryptoError} {value : Option β}
    {next : β → EngineCall mls α} {messagesOf : α → List Bytes}
    (hnext : ∀ found, value = some found →
      Performs semantics operation (next found) messagesOf) :
    Performs semantics operation (need failure value >>= next) messagesOf := by
  intro table
  apply triple_bind (Q := fun found engine =>
    contexts semantics engine = table ∧ value = some found)
  · apply triple_need
    · intro engine found hengine hfound
      exact ⟨hengine, hfound⟩
    · rintro engine rfl
      exact .stays (by simp)
  · rintro found engine ⟨hengine, hfound⟩
    exact hnext found hfound table engine hengine

theorem performs_onGroup {body : mls.Signer → GroupCall mls α}
    {messagesOf : α → List Bytes}
    (hbody : ∀ table signer context, table groupId = some context →
      Triple (fun session => semantics.context session.group = context)
        (body signer)
        (fun value => EffectOn semantics operation table groupId (messagesOf value))
        (EffectOn semantics operation table groupId [])) :
    Performs semantics operation (onGroup groupId body) messagesOf := by
  intro table
  exact triple_onGroup (.stays (by simp)) (hbody table)

/-- The states do not depend on the store. -/
theorem triple_onStorage {failure : CryptoError}
    {access : CryptoEngine mls → Storage → Option α × Storage} :
    Triple (fun engine => contexts semantics engine = table)
      (attempt failure (onStorage access))
      (fun value engine => contexts semantics engine = table ∧
        ∃ before storage, (access before storage).1 = some value)
      (fun engine => Effect semantics operation table []
        (contexts semantics engine)) := by
  apply triple_attempt
  · intro engine value hengine hvalue
    exact ⟨hengine, engine, engine.storage, hvalue⟩
  · rintro engine rfl -
    exact .stays (by simp)

theorem performs_generateKeyPackages (entropy : ℕ → Bytes) (count : ℕ) :
    Performs semantics operation (generateKeyPackages entropy count) fun _ => [] := by
  intro table
  suffices hbuild : ∀ count, Triple (fun engine => contexts semantics engine = table)
      (buildKeyPackages entropy count)
      (fun _ engine => contexts semantics engine = table)
      (fun engine => Effect semantics operation table []
        (contexts semantics engine)) by
    intro engine hengine
    obtain ⟨hok, herror⟩ := hbuild (min count 100) engine hengine
    refine ⟨?_, herror⟩
    intro packages after houtcome
    rw [hok packages after houtcome]
    exact .stays (by simp)
  intro count
  induction count with
  | zero =>
      apply triple_pure
      intro engine hengine
      exact hengine
  | succ count ih =>
      apply triple_bind ih
      intro packages
      apply triple_bind
        (Q := fun _ engine => contexts semantics engine = table)
      · apply triple_bind triple_onStorage
        intro package
        apply triple_need
        · rintro engine bytes ⟨hengine, -⟩ -
          exact hengine
        · rintro engine ⟨rfl, -⟩
          exact .stays (by simp)
      · intro package
        apply triple_pure
        intro engine hengine
        exact hengine

theorem performs_createConversation (entropy : Bytes) :
    Performs semantics operation (createConversation entropy groupId) fun _ => [] := by
  apply performs_need
  intro _ _ table
  apply triple_bind triple_onStorage
  rintro group engine ⟨rfl, before, storage, hcreated⟩
  obtain ⟨origin, horigin⟩ := semantics.created hcreated
  apply ends_of_ok
  rw [contexts_update, Option.map_some, horigin]
  exact .creates groupId origin

theorem asWelcome_eq_some {message : mls.Message} {welcome : mls.Welcome}
    (hwelcome : asWelcome message = some welcome) : message = .welcome welcome := by
  cases message <;> cases hwelcome
  rfl

theorem performs_joinConversationFromWelcome {bytes : Bytes}
    (hreceived : operation.received = some bytes) :
    Performs semantics operation (joinConversationFromWelcome bytes) fun _ => [] := by
  apply performs_need
  intro message hmessage
  apply performs_need
  intro welcome hwelcome table
  rw [asWelcome_eq_some hwelcome] at hmessage
  apply triple_bind triple_onStorage
  intro group
  apply triple_bind (Q := fun _ engine =>
    Effect semantics operation table [] (contexts semantics engine))
  · rintro engine ⟨rfl, before, storage, hjoined⟩
    apply ends_of_ok
    rw [contexts_update, Option.map_some, semantics.joined hjoined]
    exact .joins (mls.groupId group) bytes welcome hreceived hmessage
  · intro _
    apply triple_pure
    intro engine heffect
    exact heffect

theorem performs_commitAddMembers (entropy : Bytes) (keyPackages : List Bytes)
    (hoperation : operation.commitsIn = some groupId) :
    Performs semantics operation (commitAddMembers entropy groupId keyPackages)
      messages := by
  apply performs_need
  intro packages _
  apply performs_onGroup
  intro table signer context hentry
  apply triple_bind
  · exact commitMerged_spec (semantics.addMembers_commits entropy signer packages)
      (effect_nothing hentry)
  · intro made
    exact groupChange_spec made hoperation hentry

theorem performs_commitRemoveMembers (entropy : Bytes) (member : MemberCredential)
    (hoperation : operation.commitsIn = some groupId) :
    Performs semantics operation (commitRemoveMembers entropy groupId member)
      messages := by
  apply performs_onGroup
  intro table signer context hentry
  apply leafOf_spec (effect_nothing hentry)
  intro leaf
  apply triple_bind
  · exact commitMerged_spec (semantics.removeMembers_commits entropy signer [leaf])
      (effect_nothing hentry)
  · intro made
    exact groupChange_spec made hoperation hentry

theorem performs_selfUpdate (entropy : Bytes)
    (hoperation : operation.commitsIn = some groupId) :
    Performs semantics operation (selfUpdate entropy groupId)
      fun commit => [commit] := by
  apply performs_onGroup
  intro table signer context hentry
  apply triple_bind
  · exact commitMerged_spec (semantics.selfUpdate_commits entropy signer)
      (effect_nothing hentry)
  · intro made
    apply triple_need
    · intro session bytes hmerged hbytes
      apply hmerged.effect hoperation hentry
      intro other hother
      rw [List.mem_singleton.mp hother]
      exact .inl (semantics.deserialize_serialize hbytes)
    · intro session hmerged
      exact hmerged.effect hoperation hentry (by simp)

theorem performs_proposeAddMembers (entropy keyPackage : Bytes) :
    Performs semantics operation (proposeAddMembers entropy groupId keyPackage)
      fun proposal => [proposal] := by
  apply performs_need
  intro package _
  apply performs_onGroup
  intro table signer context hentry
  exact message_spec (semantics.proposeAddMember_stays entropy signer package)
    (fun proposal bytes hbytes => .inl ⟨proposal, hbytes⟩) hentry

theorem performs_proposeRemoveMembers (entropy : Bytes) (member : MemberCredential) :
    Performs semantics operation (proposeRemoveMembers entropy groupId member)
      fun proposal => [proposal] := by
  apply performs_onGroup
  intro table signer context hentry
  apply leafOf_spec (effect_nothing hentry)
  intro leaf
  exact message_spec (semantics.proposeRemoveMember_stays entropy signer leaf)
    (fun proposal bytes hbytes => .inl ⟨proposal, hbytes⟩) hentry

theorem performs_encryptApplicationMessage (entropy plaintext : Bytes) :
    Performs semantics operation
      (encryptApplicationMessage entropy groupId plaintext)
      fun message => [message] := by
  apply performs_onGroup
  intro table signer context hentry
  exact message_spec (semantics.createMessage_stays entropy signer plaintext)
    (fun application bytes hbytes => .inr ⟨application, hbytes⟩) hentry

theorem tryIntoProtocolMessage_eq_some {message protocol : mls.Message}
    (hprotocol : tryIntoProtocolMessage message = some protocol) :
    protocol = message := by
  cases message <;> cases hprotocol <;> rfl

theorem performs_processIncomingMessage {ciphertext : Bytes}
    (hreceived : operation.received = some ciphertext) :
    Performs semantics operation (processIncomingMessage groupId ciphertext)
      fun _ => [] := by
  apply performs_need
  intro message hmessage
  apply performs_need
  intro protocol hprotocol
  rw [← tryIntoProtocolMessage_eq_some hprotocol] at hmessage
  apply performs_onGroup
  intro table signer context hentry
  exact process_spec hreceived hmessage hentry

theorem performs_destroyLocalConversationState :
    Performs semantics operation (destroyLocalConversationState groupId)
      fun _ => [] := by
  rintro table engine rfl
  unfold destroyLocalConversationState
  cases hgroup : engine.groups groupId with
  | none =>
      exact ends_of_error (.stays (by simp))
  | some group =>
      have hdelete : Triple
          (fun after => contexts semantics after =
            update (contexts semantics engine) groupId none)
          (attempt (CryptoError.openMls "group deletion")
            (onStorage fun _ => mls.delete group))
          (fun _ after => Effect semantics operation (contexts semantics engine) []
            (contexts semantics after))
          (fun after => Effect semantics operation (contexts semantics engine) []
            (contexts semantics after)) := by
        -- The group is gone from the engine whether or not the store lets go of it.
        apply triple_attempt
        · intro after _ hafter _
          change Effect _ _ _ _ (contexts semantics after)
          rw [hafter]
          exact .leaves groupId
        · intro after hafter _
          change Effect _ _ _ _ (contexts semantics after)
          rw [hafter]
          exact .leaves groupId
      exact hdelete _ (contexts_update engine engine.storage groupId none)

/-- One call changes at most one group state, in one of the ways of `Effect`. -/
theorem perform_effect (semantics : mls.Semantics) (operation : Operation)
    (engine : CryptoEngine mls) :
    Effect semantics operation (contexts semantics engine)
      (perform operation engine).1
      (contexts semantics (perform operation engine).2) := by
  cases operation with
  | generateKeyPackages entropy count =>
      exact (performs_generateKeyPackages entropy count).answer_effect engine
  | createConversation entropy groupId =>
      exact (performs_createConversation entropy).answer_effect engine
  | joinConversationFromWelcome welcome =>
      exact (performs_joinConversationFromWelcome rfl).answer_effect engine
  | commitAddMembers entropy groupId keyPackages =>
      exact (performs_commitAddMembers entropy keyPackages rfl).answer_effect engine
  | commitRemoveMembers entropy groupId member =>
      exact (performs_commitRemoveMembers entropy member rfl).answer_effect engine
  | selfUpdate entropy groupId =>
      exact (performs_selfUpdate entropy rfl).answer_effect engine
  | proposeAddMembers entropy groupId keyPackage =>
      exact (performs_proposeAddMembers entropy keyPackage).answer_effect engine
  | proposeRemoveMembers entropy groupId member =>
      exact (performs_proposeRemoveMembers entropy member).answer_effect engine
  | encryptApplicationMessage entropy groupId plaintext =>
      exact (performs_encryptApplicationMessage entropy plaintext).answer_effect engine
  | processIncomingMessage groupId ciphertext =>
      exact (performs_processIncomingMessage rfl).answer_effect engine
  | destroyLocalConversationState groupId =>
      exact performs_destroyLocalConversationState.answer_effect engine

end ResilientMessenger.Contexts
