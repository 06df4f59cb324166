import ResilientMessenger.Protocol.Cbor

/-!
# Transport frames and application envelopes

The two version 1 wire formats: a six-field transport frame around opaque
control data or ciphertext, and the five-field application envelope inside it.
Encoding checks the limits of the value; decoding checks the limits of the
bytes.  The main theorem shows that these checks, made in different places,
accept the same pairs.
-/

namespace ResilientMessenger.Frames

open ResilientMessenger.ByteCodec
open ResilientMessenger.ByteReader
open ResilientMessenger.Cbor

def protocolVersion : ℕ := 1
def maxFrameSize : ℕ := 64 * 1024
def maxEncryptedTextEventSize : ℕ := 4 * 1024
def maxTtlSeconds : ℕ := 30 * 24 * 60 * 60

inductive FrameType where
  | clientHello
  | serverHello
  | authChallenge
  | authResponse
  | authAccepted
  | uploadEnvelope
  | uploadAccepted
  | syncRequest
  | syncBatch
  | deliveryReceiptBatch
  | readReceiptBatch
  | relayDirectoryRequest
  | relayDirectoryResponse
  | ping
  | pong
  | rateLimit
  | error
  deriving DecidableEq, Repr

namespace FrameType

/-- The discriminant of the `repr(u8)` enumeration. -/
def code : FrameType → ℕ
  | clientHello => 1
  | serverHello => 2
  | authChallenge => 3
  | authResponse => 4
  | authAccepted => 5
  | uploadEnvelope => 6
  | uploadAccepted => 7
  | syncRequest => 8
  | syncBatch => 9
  | deliveryReceiptBatch => 10
  | readReceiptBatch => 11
  | relayDirectoryRequest => 12
  | relayDirectoryResponse => 13
  | ping => 14
  | pong => 15
  | rateLimit => 16
  | error => 17

def parse : ℕ → Except Error FrameType
  | 1 => .ok clientHello
  | 2 => .ok serverHello
  | 3 => .ok authChallenge
  | 4 => .ok authResponse
  | 5 => .ok authAccepted
  | 6 => .ok uploadEnvelope
  | 7 => .ok uploadAccepted
  | 8 => .ok syncRequest
  | 9 => .ok syncBatch
  | 10 => .ok deliveryReceiptBatch
  | 11 => .ok readReceiptBatch
  | 12 => .ok relayDirectoryRequest
  | 13 => .ok relayDirectoryResponse
  | 14 => .ok ping
  | 15 => .ok pong
  | 16 => .ok rateLimit
  | 17 => .ok error
  | _ => .error .unknownFrameType

theorem parse_eq_ok {n : ℕ} {kind : FrameType} :
    parse n = .ok kind ↔ n = kind.code := by
  constructor
  · intro hparse
    unfold parse at hparse
    split at hparse <;> cases hparse <;> rfl
  · rintro rfl
    cases kind <;> rfl

theorem code_lt (kind : FrameType) : kind.code < 24 := by
  cases kind <;> decide

end FrameType

inductive ApplicationType where
  | textMessage
  | messageRequest
  | messageRequestAccepted
  | deliveryReceipt
  | readReceipt
  | groupMetadataUpdate
  | groupMemberEvent
  | groupInvite
  | groupInviteAccepted
  | deviceLinked
  | deviceRemoved
  deriving DecidableEq, Repr

namespace ApplicationType

/-- The discriminant of the `repr(u8)` enumeration. -/
def code : ApplicationType → ℕ
  | textMessage => 1
  | messageRequest => 2
  | messageRequestAccepted => 3
  | deliveryReceipt => 4
  | readReceipt => 5
  | groupMetadataUpdate => 6
  | groupMemberEvent => 7
  | groupInvite => 8
  | groupInviteAccepted => 9
  | deviceLinked => 10
  | deviceRemoved => 11

def parse : ℕ → Except Error ApplicationType
  | 1 => .ok textMessage
  | 2 => .ok messageRequest
  | 3 => .ok messageRequestAccepted
  | 4 => .ok deliveryReceipt
  | 5 => .ok readReceipt
  | 6 => .ok groupMetadataUpdate
  | 7 => .ok groupMemberEvent
  | 8 => .ok groupInvite
  | 9 => .ok groupInviteAccepted
  | 10 => .ok deviceLinked
  | 11 => .ok deviceRemoved
  | _ => .error .unknownApplicationType

theorem parse_eq_ok {n : ℕ} {kind : ApplicationType} :
    parse n = .ok kind ↔ n = kind.code := by
  constructor
  · intro hparse
    unfold parse at hparse
    split at hparse <;> cases hparse <;> rfl
  · rintro rfl
    cases kind <;> rfl

theorem code_lt (kind : ApplicationType) : kind.code < 24 := by
  cases kind <;> decide

end ApplicationType

/-- The opaque `body` is ciphertext or control data. -/
@[ext]
structure TransportFrame where
  version : UInt16
  kind : FrameType
  clientMessageId : Id16
  ttlSeconds : UInt32
  body : Bytes
  deriving DecidableEq

@[ext]
structure ApplicationEnvelope where
  kind : ApplicationType
  eventId : Id16
  conversationId : Id16
  encryptedContent : Bytes
  deriving DecidableEq

namespace TransportFrame

/-- The six items of a frame, before any limit is checked. -/
def items (frame : TransportFrame) : Bytes :=
  Encoder.array 6 ++
    (Encoder.uint 1 ++
      (Encoder.uint frame.version.toNat ++
        (Encoder.uint frame.kind.code ++
          (Encoder.bytes frame.clientMessageId.toList ++
            (Encoder.uint frame.ttlSeconds.toNat ++
              Encoder.bytes frame.body)))))

def encode (frame : TransportFrame) : Except Error Bytes :=
  if maxTtlSeconds < frame.ttlSeconds.toNat then
    .error .fieldOutOfRange
  else if maxFrameSize < frame.body.length then
    .error .tooLarge
  else if maxFrameSize < frame.items.length then
    .error .tooLarge
  else
    .ok frame.items

def reader : Decoder TransportFrame := do
  Decoder.arrayLen 6
  let tag ← Decoder.uint
  ensure (tag = 1) .malformed
  let version ← Decoder.uint
  ensure (version = protocolVersion) .unsupportedVersion
  let kindCode ← Decoder.uint
  let kind ← fromResult (FrameType.parse kindCode)
  let id ← Decoder.id
  let ttl ← Decoder.uint
  ensure (ttl ≤ maxTtlSeconds) .fieldOutOfRange
  let body ← Decoder.bytes
  finish .trailingBytes
  pure
    { version := UInt16.ofNat version
      kind
      clientMessageId := id
      ttlSeconds := UInt32.ofNat ttl
      body }

def decode (input : Bytes) : Except Error TransportFrame :=
  if maxFrameSize < input.length then .error .tooLarge
  else decodeWith reader input

end TransportFrame

namespace ApplicationEnvelope

/-- The five items of an envelope. -/
def items (envelope : ApplicationEnvelope) : Bytes :=
  Encoder.array 5 ++
    (Encoder.uint 2 ++
      (Encoder.uint envelope.kind.code ++
        (Encoder.bytes envelope.eventId.toList ++
          (Encoder.bytes envelope.conversationId.toList ++
            Encoder.bytes envelope.encryptedContent))))

def encode (envelope : ApplicationEnvelope) : Except Error Bytes :=
  if maxEncryptedTextEventSize < envelope.encryptedContent.length then
    .error .tooLarge
  else
    .ok envelope.items

def reader : Decoder ApplicationEnvelope := do
  Decoder.arrayLen 5
  let tag ← Decoder.uint
  ensure (tag = 2) .malformed
  let kindCode ← Decoder.uint
  let kind ← fromResult (ApplicationType.parse kindCode)
  let eventId ← Decoder.id
  let conversationId ← Decoder.id
  let encryptedContent ← Decoder.bytes
  ensure (encryptedContent.length ≤ maxEncryptedTextEventSize) .tooLarge
  finish .trailingBytes
  pure { kind, eventId, conversationId, encryptedContent }

def decode (input : Bytes) : Except Error ApplicationEnvelope :=
  decodeWith reader input

end ApplicationEnvelope

/-! ## What the encoders accept -/

theorem length_bytes_ge (b : Bytes) : b.length ≤ (Encoder.bytes b).length := by
  simp [Encoder.bytes]

/-- The body limit is implied by the frame limit, so two conditions decide
whether a frame encodes. -/
theorem frame_encode_eq_ok {frame : TransportFrame} {output : Bytes} :
    frame.encode = .ok output ↔
      frame.ttlSeconds.toNat ≤ maxTtlSeconds ∧
        frame.items.length ≤ maxFrameSize ∧ output = frame.items := by
  have hbody : frame.body.length ≤ frame.items.length := by
    have hbytes := length_bytes_ge frame.body
    simp only [TransportFrame.items, List.length_append]
    omega
  unfold TransportFrame.encode
  split_ifs <;> simp_all [eq_comm]
  omega

theorem envelope_encode_eq_ok {envelope : ApplicationEnvelope} {output : Bytes} :
    envelope.encode = .ok output ↔
      envelope.encryptedContent.length ≤ maxEncryptedTextEventSize ∧
        output = envelope.items := by
  unfold ApplicationEnvelope.encode
  split_ifs <;> simp_all [eq_comm]

/-! ## What the decoders accept -/

theorem frame_reader_eq_ok {frame : TransportFrame} {input unread : Bytes} :
    TransportFrame.reader input = .ok (frame, unread) ↔
      frame.version = 1 ∧ frame.ttlSeconds.toNat ≤ maxTtlSeconds ∧
        frame.body.length < 2 ^ 32 ∧ input = frame.items ∧ unread = [] := by
  simp only [TransportFrame.reader, bind_eq_ok, arrayLen_eq_ok, uint_eq_ok,
    ensure_eq_ok, fromResult_eq_ok, id_eq_ok, bytes_eq_ok, finish_eq_ok,
    pure_eq_ok, FrameType.parse_eq_ok, decide_eq_true_eq, Prod.mk.injEq]
  constructor
  · rintro ⟨_, _, ⟨-, rfl⟩, tag, _, ⟨-, rfl⟩, _, _, ⟨rfl, rfl⟩, version, _,
      ⟨-, rfl⟩, _, _, ⟨rfl, rfl⟩, kindCode, _, ⟨-, rfl⟩, kind, _, ⟨rfl, rfl⟩,
      id, _, rfl, ttl, _, ⟨hword, rfl⟩, _, _, ⟨httl, rfl⟩, body, _,
      ⟨hbody, rfl⟩, _, _, ⟨rfl, rfl⟩, rfl, rfl⟩
    have httlNat : (UInt32.ofNat ttl).toNat = ttl :=
      UInt32.toNat_ofNat_of_lt' hword
    refine ⟨rfl, by rw [httlNat]; exact httl, hbody, ?_, rfl⟩
    simp [TransportFrame.items, httlNat, protocolVersion]
  · rintro ⟨hversion, httl, hbody, rfl, rfl⟩
    have hkind := frame.kind.code_lt
    refine ⟨(), _, ⟨by omega, rfl⟩, 1, _, ⟨by omega, rfl⟩, (), _, ⟨rfl, rfl⟩,
      frame.version.toNat, _, ⟨?_, rfl⟩, (), _, ⟨?_, rfl⟩, frame.kind.code, _,
      ⟨by omega, rfl⟩, frame.kind, _, ⟨rfl, rfl⟩, frame.clientMessageId, _, rfl,
      frame.ttlSeconds.toNat, _, ⟨frame.ttlSeconds.toNat_lt, rfl⟩, (), _,
      ⟨httl, rfl⟩, frame.body, [], ⟨hbody, ?_⟩, (), [], ⟨rfl, rfl⟩, ?_, rfl⟩
    · rw [hversion]
      decide
    · rw [hversion]
      rfl
    · simp
    · ext1 <;> simp

theorem envelope_reader_eq_ok {envelope : ApplicationEnvelope}
    {input unread : Bytes} :
    ApplicationEnvelope.reader input = .ok (envelope, unread) ↔
      envelope.encryptedContent.length ≤ maxEncryptedTextEventSize ∧
        input = envelope.items ∧ unread = [] := by
  simp only [ApplicationEnvelope.reader, bind_eq_ok, arrayLen_eq_ok, uint_eq_ok,
    ensure_eq_ok, fromResult_eq_ok, id_eq_ok, bytes_eq_ok, finish_eq_ok,
    pure_eq_ok, ApplicationType.parse_eq_ok, decide_eq_true_eq, Prod.mk.injEq]
  constructor
  · rintro ⟨_, _, ⟨-, rfl⟩, tag, _, ⟨-, rfl⟩, _, _, ⟨rfl, rfl⟩, kindCode, _,
      ⟨-, rfl⟩, kind, _, ⟨rfl, rfl⟩, eventId, _, rfl, conversationId, _, rfl,
      content, _, ⟨-, rfl⟩, _, _, ⟨hcontent, rfl⟩, _, _, ⟨rfl, rfl⟩, rfl, rfl⟩
    exact ⟨hcontent, by simp [ApplicationEnvelope.items], rfl⟩
  · rintro ⟨hcontent, rfl, rfl⟩
    have hkind := envelope.kind.code_lt
    have hword : envelope.encryptedContent.length < 2 ^ 32 := by
      unfold maxEncryptedTextEventSize at hcontent
      omega
    exact ⟨(), _, ⟨by omega, rfl⟩, 2, _, ⟨by omega, rfl⟩, (), _, ⟨rfl, rfl⟩,
      envelope.kind.code, _, ⟨by omega, rfl⟩, envelope.kind, _, ⟨rfl, rfl⟩,
      envelope.eventId, _, rfl, envelope.conversationId, _, rfl,
      envelope.encryptedContent, [], ⟨hword, by simp⟩, (), [],
      ⟨hcontent, rfl⟩, (), [], ⟨rfl, rfl⟩, rfl, rfl⟩

/-- A frame is decoded exactly from its own encoding, and only version 1 is
decoded at all. -/
theorem frame_decode_eq_ok {frame : TransportFrame} {input : Bytes} :
    TransportFrame.decode input = .ok frame ↔
      frame.version = 1 ∧ frame.encode = .ok input := by
  rw [frame_encode_eq_ok, TransportFrame.decode]
  split_ifs with hlarge
  · simp only [false_iff]
    rintro ⟨-, -, hitems, rfl⟩
    omega
  · simp only [decodeWith_eq_ok, frame_reader_eq_ok]
    constructor
    · rintro ⟨_, hversion, httl, -, rfl, -⟩
      exact ⟨hversion, httl, by omega, rfl⟩
    · rintro ⟨hversion, httl, hitems, rfl⟩
      have hbody := length_bytes_ge frame.body
      simp only [TransportFrame.items, List.length_append, maxFrameSize] at hitems
      exact ⟨[], hversion, httl, by omega, rfl, rfl⟩

theorem envelope_decode_eq_ok {envelope : ApplicationEnvelope} {input : Bytes} :
    ApplicationEnvelope.decode input = .ok envelope ↔
      envelope.encode = .ok input := by
  rw [envelope_encode_eq_ok, ApplicationEnvelope.decode, decodeWith_eq_ok]
  simp [envelope_reader_eq_ok]

/-- Decoding inverts encoding on both formats, and an accepted byte string is
the only one that decodes to its value. -/
theorem decode_canonical :
    (∀ (input : Bytes) (frame : TransportFrame),
      TransportFrame.decode input = .ok frame ↔
        frame.version = 1 ∧ frame.encode = .ok input) ∧
    (∀ (input : Bytes) (envelope : ApplicationEnvelope),
      ApplicationEnvelope.decode input = .ok envelope ↔
        envelope.encode = .ok input) ∧
    (∀ frame : TransportFrame,
      {input | TransportFrame.decode input = .ok frame}.Subsingleton) ∧
    (∀ envelope : ApplicationEnvelope,
      {input | ApplicationEnvelope.decode input = .ok envelope}.Subsingleton) := by
  refine ⟨fun _ _ => frame_decode_eq_ok, fun _ _ => envelope_decode_eq_ok,
    fun frame => ?_, fun envelope => ?_⟩
  · intro left hleft right hright
    have hencodeLeft := (frame_decode_eq_ok.mp hleft).2
    have hencodeRight := (frame_decode_eq_ok.mp hright).2
    exact Except.ok.inj (hencodeLeft.symm.trans hencodeRight)
  · intro left hleft right hright
    have hencodeLeft := envelope_decode_eq_ok.mp hleft
    have hencodeRight := envelope_decode_eq_ok.mp hright
    exact Except.ok.inj (hencodeLeft.symm.trans hencodeRight)

end ResilientMessenger.Frames
