import ResilientMessenger.Protocol.Frames

/-!
# Cut and extended frames

A relay may hand over part of a frame, or a frame with other bytes behind it.
Each item of the CBOR profile is read by a steady reader: its head and its
length decide how many octets it uses, so a cut inside it is seen as the end of
the input before any check on its value can fire.  The two decoders read such
items one after another and then insist on the end of the input.  A cut of an
accepted frame is therefore always reported as a truncation and an extension
always as trailing bytes, wherever the cut falls.
-/

namespace ResilientMessenger.Truncation

open ResilientMessenger.ByteCodec
open ResilientMessenger.ByteReader
open ResilientMessenger.Cbor
open ResilientMessenger.Frames

/-! ## The items of the profile -/

theorem argument_steady (a : UInt8) :
    Steady Error.truncated (Decoder.argument a) := by
  unfold Decoder.argument
  split_ifs
  · exact Steady.pure _
  · exact Steady.word 1
  · exact Steady.word 2
  · exact Steady.word 4
  · exact Steady.throw _

theorem head_steady : Steady Error.truncated Decoder.head := by
  refine Steady.byte.bind fun x => ?_
  refine (argument_steady (x &&& 31)).bind fun n => ?_
  exact (Steady.ensure _ _).bind fun _ => Steady.pure _

theorem uint_steady : Steady Error.truncated Decoder.uint := by
  refine head_steady.bind fun item => ?_
  exact (Steady.ensure _ _).bind fun _ => Steady.pure _

theorem arrayLen_steady (n : ℕ) : Steady Error.truncated (Decoder.arrayLen n) :=
  head_steady.bind fun _ => Steady.ensure _ _

theorem bytes_steady : Steady Error.truncated Decoder.bytes := by
  refine head_steady.bind fun item => ?_
  exact (Steady.ensure _ _).bind fun _ => Steady.take _

/-- The length of an identifier is checked after its bytes were read, so an
identifier cut short is a truncation as well. -/
theorem id_steady : Steady Error.truncated Decoder.id := by
  refine bytes_steady.bind fun b => ?_
  split
  · exact Steady.pure _
  · exact Steady.throw _

/-! ## The two decoders -/

theorem frame_reader_complete :
    Complete Error.truncated Error.trailingBytes TransportFrame.reader := by
  refine Complete.bind (arrayLen_steady 6) fun _ => ?_
  refine Complete.bind uint_steady fun tag => ?_
  refine Complete.bind (Steady.ensure _ _) fun _ => ?_
  refine Complete.bind uint_steady fun version => ?_
  refine Complete.bind (Steady.ensure _ _) fun _ => ?_
  refine Complete.bind uint_steady fun kindCode => ?_
  refine Complete.bind (Steady.fromResult _) fun kind => ?_
  refine Complete.bind id_steady fun id => ?_
  refine Complete.bind uint_steady fun ttl => ?_
  refine Complete.bind (Steady.ensure _ _) fun _ => ?_
  refine Complete.bind bytes_steady fun body => ?_
  exact Complete.finish _

theorem envelope_reader_complete :
    Complete Error.truncated Error.trailingBytes ApplicationEnvelope.reader := by
  refine Complete.bind (arrayLen_steady 5) fun _ => ?_
  refine Complete.bind uint_steady fun tag => ?_
  refine Complete.bind (Steady.ensure _ _) fun _ => ?_
  refine Complete.bind uint_steady fun kindCode => ?_
  refine Complete.bind (Steady.fromResult _) fun kind => ?_
  refine Complete.bind id_steady fun eventId => ?_
  refine Complete.bind id_steady fun conversationId => ?_
  refine Complete.bind bytes_steady fun encryptedContent => ?_
  refine Complete.bind (Steady.ensure _ _) fun _ => ?_
  exact Complete.finish _

/-! ## The size limit -/

theorem decode_of_length_le {input : Bytes} (hlength : input.length ≤ maxFrameSize) :
    TransportFrame.decode input = decodeWith TransportFrame.reader input :=
  if_neg (Nat.not_lt.mpr hlength)

theorem decode_of_lt_length {input : Bytes} (hlarge : maxFrameSize < input.length) :
    TransportFrame.decode input = .error .tooLarge :=
  if_pos hlarge

theorem length_le_of_decode {input : Bytes} {frame : TransportFrame}
    (hdecode : TransportFrame.decode input = .ok frame) :
    input.length ≤ maxFrameSize := by
  by_contra hlarge
  rw [decode_of_lt_length (Nat.lt_of_not_le hlarge)] at hdecode
  cases hdecode

/-- Every strict prefix of an accepted byte string is reported as truncated.
Every proper extension is reported as trailing bytes, except that a frame is
first held against the size limit. -/
theorem decode_strict_prefix_and_extension :
    (∀ (input : Bytes) (frame : TransportFrame),
      TransportFrame.decode input = .ok frame →
        (∀ cut, cut <+: input → cut ≠ input →
          TransportFrame.decode cut = .error .truncated) ∧
        ∀ more, more ≠ [] →
          TransportFrame.decode (input ++ more) =
            if (input ++ more).length ≤ maxFrameSize then .error .trailingBytes
            else .error .tooLarge) ∧
    (∀ (input : Bytes) (envelope : ApplicationEnvelope),
      ApplicationEnvelope.decode input = .ok envelope →
        (∀ cut, cut <+: input → cut ≠ input →
          ApplicationEnvelope.decode cut = .error .truncated) ∧
        ∀ more, more ≠ [] →
          ApplicationEnvelope.decode (input ++ more) = .error .trailingBytes) := by
  constructor
  · intro input frame hdecode
    have hlength := length_le_of_decode hdecode
    have hread := (decode_of_length_le hlength).symm.trans hdecode
    obtain ⟨hcut, hmore⟩ := frame_reader_complete.decodeWith hread
    constructor
    · intro cut hinitial hne
      -- the size test cannot fire on a prefix
      rw [decode_of_length_le (hinitial.length_le.trans hlength)]
      exact hcut cut hinitial hne
    · intro more hne
      split_ifs with htotal
      · rw [decode_of_length_le htotal]
        exact hmore more hne
      · exact decode_of_lt_length (Nat.lt_of_not_le htotal)
  · intro input envelope hdecode
    exact envelope_reader_complete.decodeWith hdecode

/-- A ping frame with an empty body. -/
def pingBytes : Bytes :=
  [0x86, 1, 1, 14, 0x50] ++ List.replicate 16 7 ++ [0, 0x40]

def pingFrame : TransportFrame :=
  { version := 1
    kind := .ping
    clientMessageId := FixedBytes.fill 16 7
    ttlSeconds := 0
    body := [] }

/-- A text message whose content is one octet. -/
def textBytes : Bytes :=
  [0x85, 2, 1, 0x50] ++ List.replicate 16 7 ++ [0x50] ++ List.replicate 16 8 ++
    [0x41, 9]

def textEnvelope : ApplicationEnvelope :=
  { kind := .textMessage
    eventId := FixedBytes.fill 16 7
    conversationId := FixedBytes.fill 16 8
    encryptedContent := [9] }

theorem decode_strict_prefix_and_extension_ping :
    TransportFrame.decode pingBytes = .ok pingFrame ∧
      TransportFrame.decode (pingBytes.take 9) = .error .truncated ∧
      TransportFrame.decode (pingBytes ++ [0]) = .error .trailingBytes ∧
      ApplicationEnvelope.decode textBytes = .ok textEnvelope ∧
      ApplicationEnvelope.decode (textBytes.take 38) = .error .truncated ∧
      ApplicationEnvelope.decode (textBytes ++ [0]) = .error .trailingBytes := by
  have hping : TransportFrame.decode pingBytes = .ok pingFrame := by
    decide +kernel
  have htext : ApplicationEnvelope.decode textBytes = .ok textEnvelope := by
    decide +kernel
  have hframe := decode_strict_prefix_and_extension.1 pingBytes pingFrame hping
  have henvelope := decode_strict_prefix_and_extension.2 textBytes textEnvelope htext
  refine ⟨hping, ?_, ?_, htext, ?_, ?_⟩
  · exact hframe.1 _ (List.take_prefix 9 pingBytes) (by decide)
  · exact hframe.2 [0] (by decide)
  · exact henvelope.1 _ (List.take_prefix 38 textBytes) (by decide)
  · exact henvelope.2 [0] (by decide)

end ResilientMessenger.Truncation
