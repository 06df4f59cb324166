import ResilientMessenger.Crypto.Contexts
import ResilientMessenger.Server.EventProvenance

/-!
# Competing Commits

The devices of a group make Commits on their own, upload them, and process what
they fetch in any order.  Neither the engines nor the server decide between two
Commits that were made on one state, so two members can stand at one epoch with
different Commits behind them.  `same_commits_unless_parted` says that this is
the only way: the members of a group at one epoch have applied the same Commits,
or there is a state on which two of them were made in the run.
-/

namespace ResilientMessenger.Forks

open ResilientMessenger.ByteCodec
open ResilientMessenger.Identity (Crypto)
open ResilientMessenger.Schema
open ResilientMessenger.Backend
open ResilientMessenger.EventProvenance (Scan cleanupExpiredEvents)
open ResilientMessenger.Engine
open ResilientMessenger.Contexts
open ResilientMessenger.Runs
open Function (update)

/-! ## The devices and the server -/

/-- The engines, what they have returned so far, the server and what each device
has fetched from it. -/
structure World (mls : OpenMls) where
  engines : Id16 → CryptoEngine mls
  published : List Bytes
  database : Database
  inbox : Id16 → List Bytes

inductive Label where
  | call (device : Id16) (operation : Operation)
  | request (moment : Moment) (call : Calls.Call)
  | cleanup (now : Time) (batch : ℤ) (scan : Scan)
  | syncGroup (device groupId : Id16) (now : Time) (after limit : ℤ)
  | fetchWelcomes (device : Id16) (now : Time) (limit : ℤ)

/-- The messages the server holds for the devices. -/
def stored (db : Database) : List Bytes :=
  db.groupEvents.rows.map EventRow.ciphertext ++
    db.welcomeMailbox.rows.map WelcomeRow.welcome

variable {mls : OpenMls}

/-- A request is served unless it uploads a message that no engine has made. -/
def World.served (world : World mls) (db : Database) : World mls :=
  if ∀ bytes ∈ stored db, bytes ∈ world.published then { world with database := db }
  else world

def World.fetched (world : World mls) (device : Id16) (messages : List Bytes) :
    World mls :=
  { world with
    inbox := update world.inbox device (world.inbox device ++ messages) }

/-- Engines are given the messages their device has fetched, in any order and
any number of times. -/
def step (crypto : Crypto) (world : World mls) : Label → World mls
  | .call device operation =>
      if ∀ bytes ∈ operation.received, bytes ∈ world.inbox device then
        let (returned, engine) := perform operation (world.engines device)
        { world with
          engines := update world.engines device engine
          published := world.published ++ returned }
      else world
  | .request moment call =>
      world.served (call.perform crypto moment world.database)
  | .cleanup now batch scan =>
      world.served (cleanupExpiredEvents now batch scan world.database).2
  | .syncGroup device groupId now after limit =>
      match syncGroup now device groupId after limit world.database with
      | .ok events => world.fetched device (events.map SyncEvent.ciphertext)
      | .error _ => world
  | .fetchWelcomes device now limit =>
      let (rows, db) := fetchWelcomes now device limit world.database
      { world with database := db }.fetched device (rows.map WelcomeRow.welcome)

/-- Devices that have initialised their stores, and a new server. -/
def start (engines : Id16 → CryptoEngine mls) : World mls where
  engines
  published := []
  database := Database.migrated
  inbox := fun _ => []

/-- The engine is the result of `initialize_crypto_store`. -/
def Initialized (engine : CryptoEngine mls) : Prop :=
  ∃ entropy member stateKey,
    initializeCryptoStore mls entropy member stateKey = .ok engine

/-! ## Where the group states come from -/

variable (semantics : mls.Semantics) (crypto : Crypto)

/-- The label is a call by which a device makes the Commit on the state its
engine is in, and merges it. -/
def Makes (commit : mls.Commit) (world : World mls) (label : Label) : Prop :=
  ∃ device operation groupId, label = .call device operation ∧
    operation.commitsIn = some groupId ∧
    contexts semantics (world.engines device) groupId =
      some (semantics.base commit) ∧
    contexts semantics ((step crypto world label).engines device) groupId =
      some ((semantics.base commit).next commit)

variable (engines : Id16 → CryptoEngine mls)

/-- The Commit was made in the run. -/
def Made (labels : List Label) (commit : mls.Commit) : Prop :=
  Once (step crypto) (Makes semantics crypto commit) (start engines) labels

/-- The state is reached from the creation of its group by Commits of the run,
each applied to the state it was made on. -/
structure Grown (labels : List Label) (context : GroupContext mls.Commit) :
    Prop where
  epoch : context.epoch = context.transcript.length
  commits : Guarded GroupContext.next
    (fun state commit => semantics.base commit = state ∧
      Made semantics crypto engines labels commit)
    (.initial context.origin) context.transcript

/-- The message is genuine: a Commit was made in the run, and a Welcome invites
to a state that has grown in it. -/
structure Genuine (labels : List Label) (bytes : Bytes) : Prop where
  commit : ∀ commit, mls.deserialize bytes = some (.commit commit) →
    Made semantics crypto engines labels commit
  welcome : ∀ welcome, mls.deserialize bytes = some (.welcome welcome) →
    Grown semantics crypto engines labels (semantics.invitation welcome)

structure Sound (labels : List Label) (world : World mls) : Prop where
  stored : ∀ bytes ∈ stored world.database, bytes ∈ world.published
  fetched : ∀ device, ∀ bytes ∈ world.inbox device, bytes ∈ world.published
  published : ∀ bytes ∈ world.published,
    Genuine semantics crypto engines labels bytes
  groups : ∀ device groupId context,
    contexts semantics (world.engines device) groupId = some context →
      Grown semantics crypto engines labels context

section Steps

variable {semantics crypto engines} {labels : List Label} {label : Label}
variable {context : GroupContext mls.Commit} {bytes : Bytes}

theorem Grown.initial (origin : Bytes) :
    Grown semantics crypto engines labels (.initial origin) :=
  ⟨rfl, trivial⟩

theorem Grown.mono (hgrown : Grown semantics crypto engines labels context) :
    Grown semantics crypto engines (labels ++ [label]) context where
  epoch := hgrown.epoch
  commits := by
    apply guarded_mono _ hgrown.commits
    rintro state commit ⟨hbase, hmade⟩
    exact ⟨hbase, once_append hmade [label]⟩

theorem Genuine.mono (hgenuine : Genuine semantics crypto engines labels bytes) :
    Genuine semantics crypto engines (labels ++ [label]) bytes where
  commit commit hcommit := once_append (hgenuine.commit commit hcommit) [label]
  welcome welcome hwelcome := (hgenuine.welcome welcome hwelcome).mono

/-- The Commits of a grown state lead to it. -/
theorem Grown.run_transcript (hgrown : Grown semantics crypto engines labels context) :
    run GroupContext.next (.initial context.origin) context.transcript = context := by
  rw [GroupContext.run_next]
  simp [GroupContext.initial, ← hgrown.epoch]

theorem Grown.next {commit : mls.Commit}
    (hgrown : Grown semantics crypto engines labels (semantics.base commit))
    (hmade : Made semantics crypto engines labels commit) :
    Grown semantics crypto engines labels ((semantics.base commit).next commit) where
  epoch := by simp [GroupContext.next, hgrown.epoch]
  commits := by
    apply guarded_append.mpr
    refine ⟨hgrown.commits, ⟨?_, hmade⟩, trivial⟩
    exact hgrown.run_transcript.symm

theorem contexts_of_initialized {engine : CryptoEngine mls}
    (hinitialized : Initialized engine) (groupId : Bytes) :
    contexts semantics engine groupId = none := by
  obtain ⟨entropy, member, stateKey, hengine⟩ := hinitialized
  unfold initializeCryptoStore at hengine
  split at hengine
  · cases hengine
  split at hengine
  · cases hengine
  · cases hengine
    rfl

theorem sound_start (hengines : ∀ device, Initialized (engines device)) :
    Sound semantics crypto engines [] (start engines) where
  stored := by simp [stored, start, Database.migrated, Table.empty]
  fetched := by simp [start]
  published := by simp [start]
  groups := by
    intro device groupId context hcontext
    change contexts semantics (engines device) groupId = _ at hcontext
    rw [contexts_of_initialized (hengines device)] at hcontext
    cases hcontext

theorem genuine_of_inert (hinert : Inert mls bytes) :
    Genuine semantics crypto engines labels bytes := by
  constructor <;> intro message hmessage <;>
    rcases hinert with ⟨other, hother⟩ | ⟨other, hother⟩ <;>
    · rw [hmessage] at hother
      cases hother

theorem genuine_of_carries {commit : mls.Commit}
    (hbase : Grown semantics crypto engines labels (semantics.base commit))
    (hmade : Made semantics crypto engines labels commit)
    (hcarries : Carries semantics commit bytes) :
    Genuine semantics crypto engines labels bytes := by
  constructor
  · intro other hother
    rcases hcarries with hcommit | ⟨invited, hwelcome, -⟩
    · rw [hcommit] at hother
      cases hother
      exact hmade
    · rw [hwelcome] at hother
      cases hother
  · intro welcome hother
    rcases hcarries with hcommit | ⟨invited, hwelcome, hinvitation⟩
    · rw [hcommit] at hother
      cases hother
    · rw [hwelcome] at hother
      cases hother
      rw [hinvitation]
      exact hbase.next hmade

theorem grown_update {table : States mls} {groupId : Bytes}
    {entry : Option (GroupContext mls.Commit)}
    (htable : ∀ groupId context, table groupId = some context →
      Grown semantics crypto engines labels context)
    (hentry : ∀ context, entry = some context →
      Grown semantics crypto engines labels context) :
    ∀ other context, update table groupId entry other = some context →
      Grown semantics crypto engines labels context := by
  intro other context hcontext
  by_cases hother : other = groupId
  · subst hother
    rw [Function.update_self] at hcontext
    exact hentry context hcontext
  · rw [Function.update_of_ne hother] at hcontext
    exact htable other context hcontext

/-- Effects on grown states and genuine messages lead to grown states and return
genuine messages. -/
theorem effect_sound {operation : Operation} {table after : States mls}
    {returned : List Bytes}
    (heffect : Effect semantics operation table returned after)
    (htable : ∀ groupId context, table groupId = some context →
      Grown semantics crypto engines labels context)
    (hreceived : ∀ bytes ∈ operation.received,
      Genuine semantics crypto engines labels bytes)
    (hmade : ∀ groupId commit, operation.commitsIn = some groupId →
      table groupId = some (semantics.base commit) →
      after groupId = some ((semantics.base commit).next commit) →
        Made semantics crypto engines labels commit) :
    (∀ bytes ∈ returned, Genuine semantics crypto engines labels bytes) ∧
      ∀ groupId context, after groupId = some context →
        Grown semantics crypto engines labels context := by
  cases heffect with
  | stays hinert =>
      exact ⟨fun bytes hbytes => genuine_of_inert (hinert bytes hbytes), htable⟩
  | creates groupId origin =>
      refine ⟨by simp, grown_update htable ?_⟩
      rintro context ⟨⟩
      exact Grown.initial origin
  | joins groupId bytes welcome hbytes hmessage =>
      refine ⟨by simp, grown_update htable ?_⟩
      rintro context ⟨⟩
      exact (hreceived bytes hbytes).welcome welcome hmessage
  | commits groupId commit hoperation hbase hcarries =>
      have hcommit := hmade groupId commit hoperation hbase (Function.update_self ..)
      have hgrown := htable groupId _ hbase
      refine ⟨?_, grown_update htable ?_⟩
      · intro bytes hbytes
        exact genuine_of_carries hgrown hcommit (hcarries bytes hbytes)
      · rintro context ⟨⟩
        exact hgrown.next hcommit
  | accepts groupId bytes commit hbytes hmessage hbase =>
      refine ⟨by simp, grown_update htable ?_⟩
      rintro context ⟨⟩
      exact (htable groupId _ hbase).next
        ((hreceived bytes hbytes).commit commit hmessage)
  | leaves groupId =>
      refine ⟨by simp, grown_update htable ?_⟩
      rintro context ⟨⟩

/-- What the server and the network do concerns messages that exist already. -/
theorem sound_delivered {world next : World mls}
    (hsound : Sound semantics crypto engines labels world)
    (hengines : next.engines = world.engines)
    (hpublished : next.published = world.published)
    (hstored : ∀ bytes ∈ stored next.database, bytes ∈ world.published)
    (hfetched : ∀ device, ∀ bytes ∈ next.inbox device, bytes ∈ world.published) :
    Sound semantics crypto engines (labels ++ [label]) next where
  stored := by
    rw [hpublished]
    exact hstored
  fetched := by
    rw [hpublished]
    exact hfetched
  published := by
    rw [hpublished]
    intro bytes hbytes
    exact (hsound.published bytes hbytes).mono
  groups := by
    rw [hengines]
    intro device groupId context hcontext
    exact (hsound.groups device groupId context hcontext).mono

theorem sound_served {world : World mls}
    (hsound : Sound semantics crypto engines labels world) (db : Database) :
    Sound semantics crypto engines (labels ++ [label]) (world.served db) := by
  unfold World.served
  split
  case isTrue hstored => exact sound_delivered hsound rfl rfl hstored hsound.fetched
  case isFalse => exact sound_delivered hsound rfl rfl hsound.stored hsound.fetched

/-- Devices fetch from what is stored. -/
theorem sound_fetched {world : World mls}
    (hsound : Sound semantics crypto engines labels world) {db : Database}
    {device : Id16} {messages : List Bytes} (hstored : stored db = stored world.database)
    (hmessages : ∀ bytes ∈ messages, bytes ∈ stored world.database) :
    Sound semantics crypto engines (labels ++ [label])
      ({ world with database := db }.fetched device messages) := by
  refine sound_delivered hsound rfl rfl ?_ ?_
  · change ∀ bytes ∈ stored db, bytes ∈ world.published
    rw [hstored]
    exact hsound.stored
  · intro other bytes hbytes
    change bytes ∈ update world.inbox device (world.inbox device ++ messages) other
      at hbytes
    by_cases hother : other = device
    · subst hother
      rw [Function.update_self, List.mem_append] at hbytes
      exact hbytes.elim (hsound.fetched other bytes)
        fun hnew => hsound.stored bytes (hmessages bytes hnew)
    · rw [Function.update_of_ne hother] at hbytes
      exact hsound.fetched other bytes hbytes

theorem stored_of_syncGroup {db : Database} {device groupId : Id16} {now : Time}
    {after limit : ℤ} {events : List SyncEvent}
    (hevents : syncGroup now device groupId after limit db = .ok events)
    {event : SyncEvent} (hevent : event ∈ events) : event.ciphertext ∈ stored db := by
  obtain ⟨-, -, hpage⟩ := Transaction.bind_eq_ok.mp hevents
  rw [← Transaction.pure_eq_ok.mp hpage] at hevent
  obtain ⟨row, hrow, rfl⟩ := List.mem_map.mp hevent
  have hmember := Paging.mem_of_mem_pageOf hrow
  apply List.mem_append_left
  exact List.mem_map_of_mem (List.mem_of_mem_filter hmember)

theorem stored_fetchWelcomes (db : Database) (device : Id16) (now : Time) (limit : ℤ) :
    stored (fetchWelcomes now device limit db).2 = stored db := by
  simp only [stored, fetchWelcomes, Table.update, List.map_map]
  congr 1
  apply List.map_congr_left
  intro row _
  simp only [Function.comp]
  split <;> rfl

theorem sound_syncGroup {world : World mls}
    (hsound : Sound semantics crypto engines labels world) (device groupId : Id16)
    (now : Time) (after limit : ℤ) :
    Sound semantics crypto engines (labels ++ [label])
      (step crypto world (.syncGroup device groupId now after limit)) := by
  cases hevents : syncGroup now device groupId after limit world.database with
  | error failure =>
      simp only [step, hevents]
      exact sound_delivered hsound rfl rfl hsound.stored hsound.fetched
  | ok events =>
      simp only [step, hevents]
      apply sound_fetched hsound rfl
      intro bytes hbytes
      obtain ⟨event, hevent, rfl⟩ := List.mem_map.mp hbytes
      exact stored_of_syncGroup hevents hevent

theorem sound_fetchWelcomes {world : World mls}
    (hsound : Sound semantics crypto engines labels world) (device : Id16)
    (now : Time) (limit : ℤ) :
    Sound semantics crypto engines (labels ++ [label])
      (step crypto world (.fetchWelcomes device now limit)) := by
  apply sound_fetched hsound (stored_fetchWelcomes world.database device now limit)
  intro bytes hbytes
  obtain ⟨row, hrow, rfl⟩ := List.mem_map.mp hbytes
  have hmember := Paging.mem_of_mem_pageOf hrow
  apply List.mem_append_right
  exact List.mem_map_of_mem (List.mem_of_mem_filter hmember)

theorem step_call {world : World mls} {device : Id16} {operation : Operation}
    (hgiven : ∀ bytes ∈ operation.received, bytes ∈ world.inbox device) :
    step crypto world (.call device operation) =
      { world with
        engines := update world.engines device
          (perform operation (world.engines device)).2
        published := world.published ++
          (perform operation (world.engines device)).1 } :=
  if_pos hgiven

/-- The Commit of a call is made by the call. -/
theorem made_call {world : World mls} {device : Id16} {operation : Operation}
    (hworld : run (step crypto) (start engines) labels = world)
    (hgiven : ∀ bytes ∈ operation.received, bytes ∈ world.inbox device)
    (groupId : Bytes) (commit : mls.Commit)
    (hoperation : operation.commitsIn = some groupId)
    (hbase : contexts semantics (world.engines device) groupId =
      some (semantics.base commit))
    (hafter : contexts semantics (perform operation (world.engines device)).2
      groupId = some ((semantics.base commit).next commit)) :
    Made semantics crypto engines (labels ++ [.call device operation]) commit := by
  apply once_last
  rw [hworld]
  refine ⟨device, operation, groupId, rfl, hoperation, hbase, ?_⟩
  rw [step_call hgiven]
  simpa using hafter

theorem sound_call
    (hsound : Sound semantics crypto engines labels
      (run (step crypto) (start engines) labels)) (device : Id16)
    (operation : Operation) :
    Sound semantics crypto engines (labels ++ [.call device operation])
      (step crypto (run (step crypto) (start engines) labels)
        (.call device operation)) := by
  generalize hworld : run (step crypto) (start engines) labels = world at hsound ⊢
  by_cases hgiven : ∀ bytes ∈ operation.received, bytes ∈ world.inbox device
  case neg =>
    have hnext : step crypto world (.call device operation) = world := if_neg hgiven
    rw [hnext]
    exact sound_delivered hsound rfl rfl hsound.stored hsound.fetched
  case pos =>
    obtain ⟨hreturned, hgroups⟩ :=
      effect_sound (perform_effect semantics operation (world.engines device))
        (fun groupId context hcontext =>
          (hsound.groups device groupId context hcontext).mono)
        (fun bytes hbytes => (hsound.published bytes
          (hsound.fetched device bytes (hgiven bytes hbytes))).mono)
        (made_call hworld hgiven)
    rw [step_call hgiven]
    constructor
    · intro bytes hbytes
      exact List.mem_append_left _ (hsound.stored bytes hbytes)
    · intro other bytes hbytes
      exact List.mem_append_left _ (hsound.fetched other bytes hbytes)
    · intro bytes hbytes
      rcases List.mem_append.mp hbytes with hold | hnew
      · exact (hsound.published bytes hold).mono
      · exact hreturned bytes hnew
    · intro other groupId context hcontext
      by_cases hother : other = device
      · subst hother
        simp only [Function.update_self] at hcontext
        exact hgroups groupId context hcontext
      · simp only [Function.update_of_ne hother] at hcontext
        exact (hsound.groups other groupId context hcontext).mono

theorem sound_step
    (hsound : Sound semantics crypto engines labels
      (run (step crypto) (start engines) labels)) (label : Label) :
    Sound semantics crypto engines (labels ++ [label])
      (step crypto (run (step crypto) (start engines) labels) label) := by
  cases label with
  | call device operation => exact sound_call hsound device operation
  | request moment call => exact sound_served hsound _
  | cleanup now batch scan => exact sound_served hsound _
  | syncGroup device groupId now after limit =>
      exact sound_syncGroup hsound device groupId now after limit
  | fetchWelcomes device now limit => exact sound_fetchWelcomes hsound device now limit

/-- Every state of every engine has grown from the creation of its group. -/
theorem sound_run (hengines : ∀ device, Initialized (engines device))
    (labels : List Label) :
    Sound semantics crypto engines labels
      (run (step crypto) (start engines) labels) := by
  apply run_history
  · exact sound_start hengines
  · intro labels label hsound
    exact sound_step hsound label

end Steps

/-! ## Members at one epoch -/

/-- Two Commits were made in the run on one and the same state, and each of the
two states comes after one of them. -/
def Parted (labels : List Label) (left right : GroupContext mls.Commit) : Prop :=
  ∃ commit competing, commit ≠ competing ∧
    semantics.base commit = semantics.base competing ∧
    Made semantics crypto engines labels commit ∧
    Made semantics crypto engines labels competing ∧
    (semantics.base commit).transcript ++ [commit] <+: left.transcript ∧
    (semantics.base commit).transcript ++ [competing] <+: right.transcript

theorem eq_or_parted_of_grown {labels : List Label}
    {left right : GroupContext mls.Commit}
    (hleft : Grown semantics crypto engines labels left)
    (hright : Grown semantics crypto engines labels right)
    (horigin : left.origin = right.origin) (hepoch : left.epoch = right.epoch) :
    left.transcript = right.transcript ∨
      Parted semantics crypto engines labels left right := by
  have hlength : left.transcript.length = right.transcript.length := by
    rw [← hleft.epoch, ← hright.epoch, hepoch]
  have hcommits := hright.commits
  rw [← horigin] at hcommits
  apply (eq_or_parted hleft.commits hcommits hlength).imp_right
  rintro ⟨shared, commit, competing, hne, hone, hother, ⟨hbase, hmade⟩,
    hcompeting, hmadetoo⟩
  have htranscript : (semantics.base commit).transcript = shared := by
    rw [hbase, GroupContext.run_next]
    rfl
  refine ⟨commit, competing, hne, hbase.trans hcompeting.symm, hmade, hmadetoo, ?_⟩
  rw [htranscript]
  exact ⟨hone, hother⟩

theorem getConversationEpoch_of_group {engine : CryptoEngine mls} {groupId : Bytes}
    {group : mls.Group} (hgroup : engine.groups groupId = some group) :
    getConversationEpoch groupId engine = .ok (mls.epoch group) := by
  simp only [getConversationEpoch, hgroup]

/-- Two members of a group that are at one epoch have applied the same sequence
of Commits, unless two Commits were made on one state. -/
theorem same_commits_unless_parted (semantics : mls.Semantics) (crypto : Crypto)
    (engines : Id16 → CryptoEngine mls)
    (hengines : ∀ device, Initialized (engines device)) (labels : List Label)
    {device other : Id16} {groupId : Bytes} {group competitor : mls.Group}
    (hgroup : ((run (step crypto) (start engines) labels).engines device).groups
      groupId = some group)
    (hcompetitor : ((run (step crypto) (start engines) labels).engines other).groups
      groupId = some competitor)
    (horigin : (semantics.context group).origin =
      (semantics.context competitor).origin)
    (hepoch : getConversationEpoch groupId
        ((run (step crypto) (start engines) labels).engines device) =
      getConversationEpoch groupId
        ((run (step crypto) (start engines) labels).engines other)) :
    (semantics.context group).transcript =
        (semantics.context competitor).transcript ∨
      Parted semantics crypto engines labels (semantics.context group)
        (semantics.context competitor) := by
  have hsound : Sound semantics crypto engines labels
      (run (step crypto) (start engines) labels) := sound_run hengines labels
  have hleft : Grown semantics crypto engines labels (semantics.context group) :=
    hsound.groups device groupId _ (contexts_of_group hgroup)
  have hright : Grown semantics crypto engines labels
      (semantics.context competitor) :=
    hsound.groups other groupId _ (contexts_of_group hcompetitor)
  rw [getConversationEpoch_of_group hgroup, getConversationEpoch_of_group hcompetitor,
    Except.ok.injEq, semantics.epoch_eq, semantics.epoch_eq] at hepoch
  exact eq_or_parted_of_grown semantics crypto engines hleft hright horigin hepoch

/-! ## Two updates at once -/

/-- Hashing into one account, with the neutral key. -/
def sampleCrypto : Crypto where
  sha256 _ := FixedBytes.fill 32 9
  signatures := SignatureScheme.neutral

def sampleMoment : Moment :=
  ⟨0, FixedBytes.fill 16 0, FixedBytes.fill 32 0, FixedBytes.fill 32 0⟩

def sampleEngine (device : Id16) : CryptoEngine ledger where
  storage := Table.empty
  signer := []
  credential :=
    ⟨MemberCredential.encode ⟨device, FixedBytes.fill 32 9, FixedBytes.fill 16 0⟩, []⟩
  groups := fun _ => none
  stateKey := FixedBytes.fill 32 0

theorem initialized_sampleEngine (device : Id16) : Initialized (sampleEngine device) :=
  ⟨[], ⟨device, FixedBytes.fill 32 9, FixedBytes.fill 16 0⟩, FixedBytes.fill 32 0, rfl⟩

def alice : Id16 := FixedBytes.fill 16 1
def bob : Id16 := FixedBytes.fill 16 2
def conversation : Id16 := FixedBytes.fill 16 7

def sampleCertificate (device : Id16) (devicePublicKey : Id32) :
    Identity.DeviceCertificate :=
  ⟨device, devicePublicKey, 0, SignatureScheme.neutralSignature⟩

def uploadCommit (author : Id16) (number : UInt8) (commit : Bytes) : Label :=
  .request sampleMoment (.uploadEvent
    { eventId := FixedBytes.fill 16 number
      groupId := conversation
      authorDeviceId := author
      clientMessageId := FixedBytes.fill 16 number
      eventKind := eventKindMlsCommit
      ciphertext := commit
      correlationId := some (FixedBytes.fill 16 8) })

/-- Alice adds Bob, who joins. -/
def joining : List Label :=
  [.request sampleMoment (.registerAccountDevice (FixedBytes.fill 32 9)
      SignatureScheme.neutralKey (sampleCertificate alice SignatureScheme.neutralKey)),
    .request sampleMoment (.registerAccountDevice (FixedBytes.fill 32 9)
      SignatureScheme.neutralKey (sampleCertificate bob (FixedBytes.fill 32 2))),
    .request sampleMoment (.createGroup conversation alice (FixedBytes.fill 32 9)),
    .request sampleMoment (.applyMembershipOperation
      { correlationId := FixedBytes.fill 16 8
        groupId := conversation
        authorDeviceId := alice
        targetDeviceId := bob
        role := 0
        remove := false
        signature := SignatureScheme.neutralSignature }),
    .call bob (.generateKeyPackages (fun _ => [2]) 1),
    .call alice (.createConversation [1] [7]),
    .call alice (.commitAddMembers [3] [7] [[2]]),
    uploadCommit alice 1 [0, 7, 1, 3],
    .request sampleMoment (.uploadWelcome alice bob conversation
      (FixedBytes.fill 16 1) [1, 7, 1, 3]),
    .fetchWelcomes bob 0 10,
    .call bob (.joinConversationFromWelcome [1, 7, 1, 3])]

/-- Both update their keys, upload the Commits and process those of the other. -/
def updating : List Label :=
  [.call alice (.selfUpdate [4] [7]),
    .call bob (.selfUpdate [5] [7]),
    uploadCommit alice 2 [0, 7, 1, 3, 4],
    uploadCommit bob 3 [0, 7, 1, 3, 5],
    .syncGroup alice conversation 0 0 10,
    .syncGroup bob conversation 0 0 10,
    .call alice (.processIncomingMessage [7] [0, 7, 1, 3, 5]),
    .call bob (.processIncomingMessage [7] [0, 7, 1, 3, 4])]

def forked : World ledger :=
  run (step sampleCrypto) (start sampleEngine) (joining ++ updating)

def aliceBranch : Ledger.Group := ⟨⟨7, 1, [3, 4]⟩, none⟩
def bobBranch : Ledger.Group := ⟨⟨7, 1, [3, 5]⟩, none⟩

def forkedGroup (device : Id16) : Option Ledger.Group := (forked.engines device).groups [7]

theorem group_alice : (forked.engines alice).groups [7] = some aliceBranch := by
  change forkedGroup alice = some aliceBranch
  decide +kernel

theorem group_bob : (forked.engines bob).groups [7] = some bobBranch := by
  change forkedGroup bob = some bobBranch
  decide +kernel

theorem branches_at_one_epoch :
    getConversationEpoch [7] (forked.engines alice) =
      getConversationEpoch [7] (forked.engines bob) := by
  rw [getConversationEpoch_of_group group_alice, getConversationEpoch_of_group group_bob]
  decide

theorem branches_differ :
    aliceBranch.state.context.transcript ≠ bobBranch.state.context.transcript := by
  decide

theorem updates_at_once_parted :
    Parted ledgerSemantics sampleCrypto sampleEngine (joining ++ updating)
      aliceBranch.state.context bobBranch.state.context := by
  have halice := group_alice
  have hbob := group_bob
  have hepoch := branches_at_one_epoch
  unfold forked at halice hbob hepoch
  have hmembers := same_commits_unless_parted ledgerSemantics sampleCrypto sampleEngine
    initialized_sampleEngine (joining ++ updating) halice hbob rfl hepoch
  exact hmembers.resolve_left branches_differ

/-- The server has stored both Commits, both devices have processed the one of
the other, and they stay at one epoch of one group with different Commits behind
them. -/
theorem updates_at_once_fork :
    ∃ group competitor : ledger.Group,
      (forked.engines alice).groups [7] = some group ∧
      (forked.engines bob).groups [7] = some competitor ∧
      (ledgerSemantics.context group).origin =
        (ledgerSemantics.context competitor).origin ∧
      getConversationEpoch [7] (forked.engines alice) =
        getConversationEpoch [7] (forked.engines bob) ∧
      (ledgerSemantics.context group).transcript ≠
        (ledgerSemantics.context competitor).transcript := by
  exact ⟨aliceBranch, bobBranch, group_alice, group_bob, rfl,
    branches_at_one_epoch, branches_differ⟩

end ResilientMessenger.Forks
