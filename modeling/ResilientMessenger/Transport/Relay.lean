import ResilientMessenger.Protocol.Truncation
import ResilientMessenger.Transport.Directory

/-!
# The relay between client and core

A relay takes frames over WebSocket or HTTPS, posts them to the core and hands
back what the core answers, if that is a frame again.  It keeps nothing: what the
core does with a frame is a parameter with its own state.  A WebSocket carries
many frames, and a client matches answers to frames by their order alone;
`websocket_in_order` is what it relies on.  `sendWebsocket_spec` and
`sendHttps_spec` compose the relay with the client's sender.
-/

namespace ResilientMessenger.Relay

open ResilientMessenger.ByteCodec
open ResilientMessenger.Frames
open ResilientMessenger.Directory
open ResilientMessenger.Truncation (length_le_of_decode)

inductive StatusCode where
  | ok
  | badRequest
  | badGateway
  deriving DecidableEq

def StatusCode.asU16 : StatusCode → ℕ
  | .ok => 200
  | .badRequest => 400
  | .badGateway => 502

/-- What comes of a POST to the core: a status and a body, which may fail to
arrive, or nothing. -/
inductive Reply where
  | failed
  | response (status : ℕ) (body : Option Bytes)

/-- The core behind the relay, at its two addresses. -/
structure Core (σ : Type) where
  post : σ → (longPoll : Bool) → Bytes → Reply × σ

def isSuccess (status : ℕ) : Bool := 200 ≤ status && status < 300

section Service

variable {σ : Type} (core : Core σ)

def forward (body : Bytes) (longPoll : Bool) (state : σ) :
    Except StatusCode Bytes × σ :=
  match TransportFrame.decode body with
  | .error _ => (.error .badRequest, state)
  | .ok _ =>
      match core.post state longPoll body with
      | (.failed, state) => (.error .badGateway, state)
      | (.response status content, state) =>
          if !isSuccess status then (.error .badGateway, state)
          else
            match content with
            | none => (.error .badGateway, state)
            | some bytes =>
                match TransportFrame.decode bytes with
                | .error _ => (.error .badGateway, state)
                | .ok _ => (.ok bytes, state)

def cborError (status : StatusCode) : StatusCode × Bytes :=
  (status, [0x82, 0x01, UInt8.ofNat (min status.asU16 255)])

def relayHttps (body : Bytes) (state : σ) : (StatusCode × Bytes) × σ :=
  match forward core body false state with
  | (.ok value, state) => ((.ok, value), state)
  | (.error status, state) => (cborError status, state)

/-! ## The WebSocket -/

inductive Message where
  | binary (bytes : Bytes)
  | text (bytes : Bytes)
  | ping (payload : Bytes)
  | pong (payload : Bytes)
  | close
  deriving DecidableEq

/-- What the socket yields, nothing when it fails, and whether it takes what is
sent in return. -/
structure Turn where
  incoming : Option Message
  sends : Bool

def longPolls (bytes : Bytes) : Bool :=
  (TransportFrame.decode bytes).toOption.any fun frame => frame.kind = .syncRequest

/-- The messages that go out on the socket until the loop returns. -/
def websocketLoop : List Turn → σ → List Message × σ
  | [], state => ([], state)
  | turn :: turns, state =>
      match turn.incoming with
      | none => ([], state)
      | some .close => ([], state)
      | some (.text _) => websocketLoop turns state
      | some (.pong _) => websocketLoop turns state
      | some (.ping payload) =>
          if turn.sends then
            let (sent, state) := websocketLoop turns state
            (.pong payload :: sent, state)
          else ([], state)
      | some (.binary bytes) =>
          match forward core bytes (longPolls bytes) state with
          | (.ok response, state) =>
              if turn.sends then
                let (sent, state) := websocketLoop turns state
                (.binary response :: sent, state)
              else ([], state)
          | (.error _, state) => (if turn.sends then [.close] else [], state)

end Service

/-! ## Answers in order -/

/-- The answer in a reply that the relay hands on. -/
def accepted : Reply → Option Bytes
  | .failed => none
  | .response status content =>
      if isSuccess status then
        content.filter fun bytes => (TransportFrame.decode bytes).toOption.isSome
      else none

/-- One POST with its reply. -/
structure Post where
  longPoll : Bool
  bytes : Bytes
  reply : Reply

/-- The core with a record of what it was asked. -/
def Core.recorded {σ : Type} (core : Core σ) : Core (σ × List Post) where
  post state longPoll bytes :=
    ((core.post state.1 longPoll bytes).1, (core.post state.1 longPoll bytes).2,
      state.2 ++ [⟨longPoll, bytes, (core.post state.1 longPoll bytes).1⟩])

def Turn.frame (turn : Turn) : Option Bytes :=
  match turn.incoming with
  | some (.binary bytes) => some bytes
  | _ => none

def Turn.pinged (turn : Turn) : Option Bytes :=
  match turn.incoming with
  | some (.ping payload) => some payload
  | _ => none

def Message.answer : Message → Option Bytes
  | .binary bytes => some bytes
  | _ => none

def Message.ponged : Message → Option Bytes
  | .pong payload => some payload
  | _ => none

def Malformed (bytes : Bytes) : Prop := ∀ frame, TransportFrame.decode bytes ≠ .ok frame

/-- The relay returns at this turn; `last` is the post it has made last. -/
def Turn.Ends (turn : Turn) (last : Option Post) : Prop :=
  match turn.incoming with
  | none => True
  | some .close => True
  | some (.ping _) => turn.sends = false
  | some (.binary bytes) =>
      turn.sends = false ∨ Malformed bytes ∨ ∃ post ∈ last, accepted post.reply = none
  | some _ => False

/-- The socket did not take what was sent at the last of these turns. -/
def Cut (taken : List Turn) : Prop := ∃ turn ∈ taken.getLast?, turn.sends = false

/-- The posts and the messages of one connection belong to the turns that were taken.
Every frame was posted, none twice, but for a last one that is malformed.  The answers
are those to the posts in their order, but for a last post that got none or whose answer
the socket did not take.  Every ping was answered in its turn, but for a last one whose
pong the socket did not take. -/
structure Served (taken : List Turn) (posts : List Post) (sent : List Message) : Prop where
  frames : ∃ malformed, taken.filterMap Turn.frame = posts.map Post.bytes ++ malformed ∧
    malformed.length ≤ 1 ∧ ∀ bytes ∈ malformed, Malformed bytes
  addresses : ∀ post ∈ posts, post.longPoll = longPolls post.bytes
  answers : ∃ answered last, posts = answered ++ last ∧ last.length ≤ 1 ∧
    (sent.filterMap Message.answer).map some =
      (answered.map fun post => accepted post.reply) ∧
    ∀ post ∈ last, accepted post.reply = none ∨ Cut taken
  pongs : ∃ lost, taken.filterMap Turn.pinged = sent.filterMap Message.ponged ++ lost ∧
    lost.length ≤ 1 ∧ (lost ≠ [] → Cut taken)

/-- The relay serves the turns in their order, and it leaves none until one ends the
connection. -/
def InOrder (turns : List Turn) (posts : List Post) (sent : List Message) : Prop :=
  ∃ taken left, turns = taken ++ left ∧ Served taken posts sent ∧
    (left ≠ [] → ∃ turn ∈ taken.getLast?, turn.Ends posts.getLast?)

section Order

variable {σ : Type} {core : Core σ} {body : Bytes} {longPoll : Bool} {state : σ}

theorem forward_of_malformed {failure : Cbor.Error}
    (hdecode : TransportFrame.decode body = .error failure) :
    forward core body longPoll state = (.error .badRequest, state) := by
  simp only [forward, hdecode]

theorem forward_of_frame {frame : TransportFrame}
    (hdecode : TransportFrame.decode body = .ok frame) :
    forward core body longPoll state =
      ((accepted (core.post state longPoll body).1).elim (.error .badGateway) .ok,
        (core.post state longPoll body).2) := by
  simp only [forward, hdecode]
  rcases core.post state longPoll body with ⟨_ | ⟨status, content⟩, after⟩
  · rfl
  · simp only [accepted]
    cases isSuccess status with
    | false => rfl
    | true =>
        cases content with
        | none => rfl
        | some bytes =>
            cases hanswer : TransportFrame.decode bytes with
            | error failure => simp [Option.filter, Except.toOption, hanswer]
            | ok answer => simp [Option.filter, Except.toOption, hanswer]

/-- At most a close message goes out. -/
def Silent (sent : List Message) : Prop :=
  sent.filterMap Message.answer = [] ∧ sent.filterMap Message.ponged = []

theorem silent_close (sends : Bool) :
    Silent (if sends then [Message.close] else []) := by
  cases sends <;> exact ⟨rfl, rfl⟩

section Turns

variable {turn : Turn} {turns : List Turn} {posts : List Post} {sent : List Message}
variable {bytes payload : Bytes} {post : Post}

theorem cut_cons (hcut : Cut turns) : Cut (turn :: turns) := by
  obtain ⟨last, hlast, hsends⟩ := hcut
  exact ⟨last, List.mem_getLast?_cons hlast, hsends⟩

theorem cut_singleton (hsends : turn.sends = false) : Cut [turn] :=
  ⟨turn, rfl, hsends⟩

/-- Nothing came in. -/
theorem inOrder_nil : InOrder [] [] [] := by
  refine ⟨[], [], rfl, ⟨⟨[], rfl, Nat.zero_le 1, by simp⟩, by simp,
    ⟨[], [], rfl, Nat.zero_le 1, rfl, by simp⟩, ⟨[], rfl, Nat.zero_le 1, by simp⟩⟩, ?_⟩
  exact fun hleft => absurd rfl hleft

/-- The turn ends the connection and nothing was posted. -/
theorem inOrder_stop (turns : List Turn) (hsilent : Silent sent) (hends : turn.Ends none)
    (hframe : ∀ bytes ∈ turn.frame, Malformed bytes)
    (hping : turn.pinged ≠ none → turn.sends = false) : InOrder (turn :: turns) [] sent := by
  refine ⟨[turn], turns, rfl, ⟨?_, by simp, ⟨[], [], rfl, Nat.zero_le 1, ?_, by simp⟩, ?_⟩,
    fun _ => ⟨turn, rfl, hends⟩⟩
  · refine ⟨turn.frame.toList, ?_, ?_,
      fun bytes hbytes => hframe bytes (Option.mem_toList.mp hbytes)⟩
    · cases hturn : turn.frame with
      | none => rw [List.filterMap_cons_none hturn]; rfl
      | some bytes => rw [List.filterMap_cons_some hturn]; rfl
    · cases turn.frame <;> simp
  · rw [hsilent.1]
    rfl
  · rw [hsilent.2]
    refine ⟨turn.pinged.toList, ?_, ?_, ?_⟩
    · cases hturn : turn.pinged with
      | none => rw [List.filterMap_cons_none hturn]; rfl
      | some payload => rw [List.filterMap_cons_some hturn]; rfl
    · cases turn.pinged <;> simp
    · intro hlost
      apply cut_singleton (hping _)
      intro hnone
      rw [hnone] at hlost
      exact hlost rfl

/-- A frame is posted and the connection ends. -/
theorem inOrder_last (turns : List Turn) (hturn : turn.incoming = some (.binary post.bytes))
    (haddress : post.longPoll = longPolls post.bytes) (hsilent : Silent sent)
    (hlast : accepted post.reply = none ∨ turn.sends = false) :
    InOrder (turn :: turns) [post] sent := by
  have hframe : turn.frame = some post.bytes := by simp [Turn.frame, hturn]
  have hping : turn.pinged = none := by simp [Turn.pinged, hturn]
  refine ⟨[turn], turns, rfl, ⟨⟨[], ?_, Nat.zero_le 1, by simp⟩, ?_,
    ⟨[], [post], rfl, le_refl 1, ?_, ?_⟩, ⟨[], ?_, Nat.zero_le 1, by simp⟩⟩,
    fun _ => ⟨turn, rfl, ?_⟩⟩
  · rw [List.filterMap_cons_some hframe]
    rfl
  · intro other hother
    rw [List.mem_singleton.mp hother]
    exact haddress
  · rw [hsilent.1]
    rfl
  · intro other hother
    rw [List.mem_singleton.mp hother]
    exact hlast.imp_right cut_singleton
  · rw [hsilent.2, List.filterMap_cons_none hping]
    rfl
  · rw [Turn.Ends, hturn]
    rcases hlast with hrefused | hsends
    · exact .inr (.inr ⟨post, rfl, hrefused⟩)
    · exact .inl hsends

theorem ends_cons {last : Turn} (hends : last.Ends posts.getLast?) :
    last.Ends (post :: posts).getLast? := by
  unfold Turn.Ends at hends ⊢
  split
  case h_4 bytes hturn =>
    rw [hturn] at hends
    rcases hends with hsends | hmalformed | ⟨refused, hrefused, hnone⟩
    · exact .inl hsends
    · exact .inr (.inl hmalformed)
    · exact .inr (.inr ⟨refused, List.mem_getLast?_cons hrefused, hnone⟩)
  case h_3 payload hturn =>
    rw [hturn] at hends
    exact hends
  case h_5 => simp_all
  all_goals trivial

/-- One more turn is served before the others. -/
theorem inOrder_cons {posts' : List Post} {sent' : List Message}
    (horder : InOrder turns posts sent)
    (hserved : ∀ taken, Served taken posts sent → Served (turn :: taken) posts' sent')
    (hends : ∀ last : Turn, last.Ends posts.getLast? → last.Ends posts'.getLast?) :
    InOrder (turn :: turns) posts' sent' := by
  obtain ⟨taken, left, rfl, htaken, hleft⟩ := horder
  refine ⟨turn :: taken, left, rfl, hserved taken htaken, ?_⟩
  intro hmore
  obtain ⟨last, hlast, hended⟩ := hleft hmore
  exact ⟨last, List.mem_getLast?_cons hlast, hends last hended⟩

theorem frames_cons_none (hserved : Served turns posts sent) (hframe : turn.frame = none) :
    ∃ malformed, (turn :: turns).filterMap Turn.frame = posts.map Post.bytes ++ malformed ∧
      malformed.length ≤ 1 ∧ ∀ bytes ∈ malformed, Malformed bytes := by
  rw [List.filterMap_cons_none hframe]
  exact hserved.frames

theorem pongs_cons_none (hserved : Served turns posts sent) (hping : turn.pinged = none) :
    ∃ lost, (turn :: turns).filterMap Turn.pinged =
        sent.filterMap Message.ponged ++ lost ∧
      lost.length ≤ 1 ∧ (lost ≠ [] → Cut (turn :: turns)) := by
  obtain ⟨lost, hpongs, hfew, hcut⟩ := hserved.pongs
  rw [List.filterMap_cons_none hping]
  exact ⟨lost, hpongs, hfew, fun hlost => cut_cons (hcut hlost)⟩

theorem answers_cons (hserved : Served turns posts sent) :
    ∃ answered last, posts = answered ++ last ∧ last.length ≤ 1 ∧
      (sent.filterMap Message.answer).map some =
        (answered.map fun post => accepted post.reply) ∧
      ∀ post ∈ last, accepted post.reply = none ∨ Cut (turn :: turns) := by
  obtain ⟨answered, last, hposts, hlast, hanswers, hunanswered⟩ := hserved.answers
  exact ⟨answered, last, hposts, hlast, hanswers,
    fun post hpost => (hunanswered post hpost).imp_right cut_cons⟩

/-- A turn that is neither a frame nor a ping is skipped. -/
theorem inOrder_skip (horder : InOrder turns posts sent) (hframe : turn.frame = none)
    (hping : turn.pinged = none) : InOrder (turn :: turns) posts sent := by
  apply inOrder_cons horder
  · exact fun taken hserved => ⟨frames_cons_none hserved hframe, hserved.addresses,
      answers_cons hserved, pongs_cons_none hserved hping⟩
  · exact fun last hended => hended

theorem inOrder_ping (horder : InOrder turns posts sent)
    (hturn : turn.incoming = some (.ping payload)) :
    InOrder (turn :: turns) posts (.pong payload :: sent) := by
  have hframe : turn.frame = none := by simp [Turn.frame, hturn]
  have hping : turn.pinged = some payload := by simp [Turn.pinged, hturn]
  apply inOrder_cons horder
  · intro taken hserved
    obtain ⟨lost, hpongs, hfew, hcut⟩ := hserved.pongs
    have hanswers := @answers_cons turn taken posts sent hserved
    refine ⟨frames_cons_none hserved hframe, hserved.addresses, hanswers,
      lost, ?_, hfew, fun hlost => cut_cons (hcut hlost)⟩
    rw [List.filterMap_cons_some hping, hpongs]
    rfl
  · exact fun last hended => hended

theorem inOrder_answer {response : Bytes} (horder : InOrder turns posts sent)
    (hturn : turn.incoming = some (.binary post.bytes))
    (haddress : post.longPoll = longPolls post.bytes)
    (hanswer : accepted post.reply = some response) :
    InOrder (turn :: turns) (post :: posts) (.binary response :: sent) := by
  have hframe : turn.frame = some post.bytes := by simp [Turn.frame, hturn]
  have hping : turn.pinged = none := by simp [Turn.pinged, hturn]
  apply inOrder_cons horder
  · intro taken hserved
    obtain ⟨malformed, hframes, hone, hmalformed⟩ := hserved.frames
    obtain ⟨answered, last, hposts, hlast, hanswers, hunanswered⟩ := hserved.answers
    have hpongs := @pongs_cons_none turn taken posts sent hserved hping
    refine ⟨⟨malformed, ?_, hone, hmalformed⟩, ?_,
      ⟨post :: answered, last, by rw [hposts, List.cons_append], hlast, ?_, ?_⟩, hpongs⟩
    · rw [List.filterMap_cons_some hframe, hframes]
      rfl
    · exact List.forall_mem_cons.mpr ⟨haddress, hserved.addresses⟩
    · simp only [List.filterMap_cons, Message.answer, List.map_cons, hanswer, hanswers]
    · exact fun other hother => (hunanswered other hother).imp_right cut_cons
  · exact fun last hended => ends_cons hended

end Turns

theorem loop_inOrder (turns : List Turn) (state : σ × List Post) :
    ∃ posts, (websocketLoop core.recorded turns state).2.2 = state.2 ++ posts ∧
      InOrder turns posts (websocketLoop core.recorded turns state).1 := by
  induction turns generalizing state with
  | nil => exact ⟨[], (List.append_nil _).symm, inOrder_nil⟩
  | cons turn turns ih =>
      have hsilent : Silent [] := ⟨rfl, rfl⟩
      unfold websocketLoop
      split
      case h_1 hturn =>
        refine ⟨[], (List.append_nil _).symm, inOrder_stop turns hsilent ?_ ?_ ?_⟩
        · simp [Turn.Ends, hturn]
        · simp [Turn.frame, hturn]
        · simp [Turn.pinged, hturn]
      case h_2 hturn =>
        refine ⟨[], (List.append_nil _).symm, inOrder_stop turns hsilent ?_ ?_ ?_⟩
        · simp [Turn.Ends, hturn]
        · simp [Turn.frame, hturn]
        · simp [Turn.pinged, hturn]
      case h_3 content hturn =>
        obtain ⟨posts, hposts, horder⟩ := ih state
        exact ⟨posts, hposts, inOrder_skip horder (by simp [Turn.frame, hturn])
          (by simp [Turn.pinged, hturn])⟩
      case h_4 content hturn =>
        obtain ⟨posts, hposts, horder⟩ := ih state
        exact ⟨posts, hposts, inOrder_skip horder (by simp [Turn.frame, hturn])
          (by simp [Turn.pinged, hturn])⟩
      case h_5 payload hturn =>
        split
        · obtain ⟨posts, hposts, horder⟩ := ih state
          exact ⟨posts, hposts, inOrder_ping horder hturn⟩
        case isFalse hsends =>
          have hunsent : turn.sends = false := by simpa using hsends
          refine ⟨[], (List.append_nil _).symm, inOrder_stop turns hsilent ?_ ?_ ?_⟩
          · simp [Turn.Ends, hturn, hunsent]
          · simp [Turn.frame, hturn]
          · exact fun _ => hunsent
      case h_6 bytes hturn =>
        cases hdecode : TransportFrame.decode bytes with
        | error failure =>
            have hmalformed : Malformed bytes := by
              intro frame hframe
              rw [hdecode] at hframe
              cases hframe
            rw [forward_of_malformed hdecode]
            refine ⟨[], (List.append_nil _).symm,
              inOrder_stop turns (silent_close _) ?_ ?_ ?_⟩
            · simp [Turn.Ends, hturn, hmalformed]
            · simp [Turn.frame, hturn, hmalformed]
            · simp [Turn.pinged, hturn]
        | ok frame =>
            rw [forward_of_frame hdecode]
            simp only [Core.recorded]
            rcases core.post state.1 (longPolls bytes) bytes with ⟨reply, after⟩
            dsimp only
            cases hreply : accepted reply with
            | none =>
                exact ⟨_, rfl, inOrder_last turns hturn rfl (silent_close _) (.inl hreply)⟩
            | some response =>
                simp only [Option.elim]
                split
                · obtain ⟨posts, hposts, horder⟩ :=
                    ih (after, state.2 ++ [⟨longPolls bytes, bytes, reply⟩])
                  refine ⟨⟨longPolls bytes, bytes, reply⟩ :: posts, ?_,
                    inOrder_answer horder hturn rfl hreply⟩
                  rw [← List.append_cons] at hposts
                  exact hposts
                case isFalse hsends =>
                  have hunsent : turn.sends = false := by simpa using hsends
                  exact ⟨_, rfl, inOrder_last turns hturn rfl hsilent (.inr hunsent)⟩

end Order

/-- Whatever comes in on a WebSocket is posted and answered in its order until the
relay returns, and it returns only at a turn that ends the connection. -/
theorem websocket_in_order {σ : Type} (core : Core σ) (turns : List Turn) (state : σ) :
    InOrder turns (websocketLoop core.recorded turns (state, [])).2.2
      (websocketLoop core.recorded turns (state, [])).1 := by
  obtain ⟨posts, hposts, horder⟩ := @loop_inOrder σ core turns (state, [])
  rw [hposts]
  exact horder

/-! ## The client's end -/

/-- How far one exchange gets: whether the frame reaches the relay, whether what
the relay sends leaves it, and whether that arrives in time. -/
structure Link where
  reaches : Bool
  leaves : Bool
  arrives : Bool

def Link.works (link : Link) : Bool := link.reaches && link.leaves && link.arrives

section Client

variable {σ : Type} (core : Core σ)

/-- The first message on the socket, if there is one. -/
def readAnswer : Option Message → Except TransportError Bytes
  | some (.binary value) =>
      if value.length ≤ maxFrameSize then .ok value else .error .invalidResponse
  | _ => .error .invalidResponse

def sendWebsocket (link : Link) (frame : Bytes) (state : σ) :
    Except TransportError Bytes × σ :=
  if !link.reaches then (.error .unavailable, state)
  else
    let (sent, state) :=
      websocketLoop core [⟨some (.binary frame), link.leaves⟩] state
    (if link.arrives then readAnswer sent.head? else .error .unavailable, state)

def sendHttps (link : Link) (frame : Bytes) (state : σ) :
    Except TransportError Bytes × σ :=
  if !link.reaches then (.error .unavailable, state)
  else
    let ((status, value), state) := relayHttps core frame state
    if !link.leaves then (.error .unavailable, state)
    else if !isSuccess status.asU16 then (.error .unavailable, state)
    else if !link.arrives then (.error .invalidResponse, state)
    else if maxFrameSize < value.length then (.error .frameTooLarge, state)
    else (.ok value, state)

end Client

section Channels

variable {σ : Type} {core : Core σ}

theorem length_of_accepted {reply : Reply} {value : Bytes}
    (haccepted : accepted reply = some value) : value.length ≤ maxFrameSize := by
  cases reply with
  | failed => cases haccepted
  | response status content =>
      simp only [accepted] at haccepted
      split at haccepted
      · obtain ⟨-, hdecode⟩ := Option.filter_eq_some_iff.mp haccepted
        cases hframe : TransportFrame.decode value with
        | error failure =>
            rw [hframe] at hdecode
            cases hdecode
        | ok frame => exact length_le_of_decode hframe
      · cases haccepted

theorem length_of_forward {body value : Bytes} {longPoll : Bool} {state : σ}
    (hforward : (forward core body longPoll state).1 = .ok value) :
    value.length ≤ maxFrameSize := by
  cases hdecode : TransportFrame.decode body with
  | error failure =>
      rw [forward_of_malformed hdecode] at hforward
      cases hforward
  | ok frame =>
      rw [forward_of_frame hdecode] at hforward
      cases haccepted : accepted (core.post state longPoll body).1 with
      | none =>
          rw [haccepted] at hforward
          cases hforward
      | some response =>
          rw [haccepted] at hforward
          cases hforward
          exact length_of_accepted haccepted

theorem status_of_forward {body : Bytes} {longPoll : Bool} {state : σ}
    {status : StatusCode}
    (hforward : (forward core body longPoll state).1 = .error status) :
    isSuccess status.asU16 = false := by
  cases hdecode : TransportFrame.decode body with
  | error failure =>
      rw [forward_of_malformed hdecode] at hforward
      cases hforward
      rfl
  | ok frame =>
      rw [forward_of_frame hdecode] at hforward
      cases haccepted : accepted (core.post state longPoll body).1 with
      | none =>
          rw [haccepted] at hforward
          cases hforward
          rfl
      | some response =>
          rw [haccepted] at hforward
          cases hforward

/-- One frame is answered by one message. -/
theorem websocketLoop_single (frame : Bytes) (leaves : Bool) (state : σ) :
    websocketLoop core [⟨some (.binary frame), leaves⟩] state =
      (if leaves then
          [(forward core frame (longPolls frame) state).1.toOption.elim .close .binary]
        else [], (forward core frame (longPolls frame) state).2) := by
  simp only [websocketLoop]
  rcases forward core frame (longPolls frame) state with ⟨status | value, after⟩
  · rfl
  · cases leaves <;> rfl

/-- A client hears over WebSocket what the relay got from the core, if the link
works all the way. -/
theorem sendWebsocket_spec (link : Link) (frame : Bytes) (state : σ) :
    (sendWebsocket core link frame state).1.toOption =
        (if link.works then (forward core frame (longPolls frame) state).1.toOption
        else none) ∧
      (sendWebsocket core link frame state).2 =
        if link.reaches then (forward core frame (longPolls frame) state).2 else state := by
  obtain ⟨reaches, leaves, arrives⟩ := link
  unfold sendWebsocket
  rw [websocketLoop_single]
  cases hforward : forward core frame (longPolls frame) state with
  | mk result after =>
      cases result with
      | error status => cases reaches <;> cases leaves <;> cases arrives <;> exact ⟨rfl, rfl⟩
      | ok value =>
          have hlength : value.length ≤ maxFrameSize :=
            length_of_forward (by rw [hforward])
          cases reaches <;> cases leaves <;> cases arrives <;>
            simp [readAnswer, hlength, Link.works, Except.toOption]

/-- The same over HTTPS, where the relay never waits for news. -/
theorem sendHttps_spec (link : Link) (frame : Bytes) (state : σ) :
    (sendHttps core link frame state).1.toOption =
        (if link.works then (forward core frame false state).1.toOption else none) ∧
      (sendHttps core link frame state).2 =
        if link.reaches then (forward core frame false state).2 else state := by
  obtain ⟨reaches, leaves, arrives⟩ := link
  unfold sendHttps relayHttps
  cases hforward : forward core frame false state with
  | mk result after =>
      cases result with
      | error status =>
          have hstatus : isSuccess (cborError status).1.asU16 = false :=
            status_of_forward (congrArg Prod.fst hforward)
          cases reaches <;> cases leaves <;> cases arrives <;>
            simp [hstatus, Link.works, Except.toOption]
      | ok value =>
          have hlength : ¬maxFrameSize < value.length :=
            not_lt.mpr (length_of_forward (by rw [hforward]))
          cases reaches <;> cases leaves <;> cases arrives <;>
            simp [hlength, Link.works, Except.toOption, StatusCode.asU16, isSuccess]

end Channels

end ResilientMessenger.Relay
