import Mathlib.Data.Prod.Lex
import ResilientMessenger.Core.ByteReader
import ResilientMessenger.Core.StableSort
import ResilientMessenger.Core.Transaction
import ResilientMessenger.Transport.Directory

/-!
# The encoding of relay directories

A directory is written as its signed bytes followed by the signature, so the
endpoints leave in signed order whatever order they stand in.  Reading checks
that the addresses are WebSocket and HTTP addresses, which writing does not.
The reader takes that check as a parameter: without it, it inverts the writer on
every directory.
-/

namespace ResilientMessenger.DirectoryCodec

open ResilientMessenger.ByteCodec
open ResilientMessenger.Directory
open ResilientMessenger.ByteReader (ensure word decodeWith)
open ResilientMessenger.Transaction

/-! ## Reading -/

abbrev DirectoryReader := ByteReader.Reader TransportError

namespace DirectoryReader

def take (count : ℕ) : DirectoryReader Bytes :=
  ByteReader.take .invalidResponse count

def array (length : ℕ) : DirectoryReader (FixedBytes length) :=
  ByteReader.array .invalidResponse length

def u16 : DirectoryReader UInt16 := do
  let value ← word .invalidResponse 2
  pure (UInt16.ofNat value)

def u64 : DirectoryReader UInt64 := do
  let value ← word .invalidResponse 8
  pure (UInt64.ofNat value)

def string : DirectoryReader String := do
  let length ← u16
  ensure (length.toNat ≤ 2048) .invalidResponse
  let bytes ← take length.toNat
  match ofUtf8? bytes with
  | some text => pure text
  | none => throw .invalidResponse

def finish : DirectoryReader Unit := ByteReader.finish .invalidResponse

end DirectoryReader

/-- `url.starts_with(scheme)`. -/
def startsWith (url scheme : String) : Bool := (utf8 scheme).isPrefixOf (utf8 url)

/-- The addresses of the endpoint have the schemes a client can use. -/
def hasSchemes (endpoint : RelayEndpoint) : Bool :=
  (startsWith endpoint.websocketUrl "wss://" ||
      startsWith endpoint.websocketUrl "ws://") &&
    (startsWith endpoint.httpsUrl "https://" ||
      startsWith endpoint.httpsUrl "http://")

/-- One endpoint, refused when it does not pass the check. -/
def readEndpoint (accepts : RelayEndpoint → Bool) : DirectoryReader RelayEndpoint := do
  let endpointId ← DirectoryReader.array 16
  let priority ← DirectoryReader.u16
  let websocketUrl ← DirectoryReader.string
  let httpsUrl ← DirectoryReader.string
  let endpoint : RelayEndpoint := { endpointId, websocketUrl, httpsUrl, priority }
  ensure (accepts endpoint) .invalidResponse
  pure endpoint

def readEndpoints (accepts : RelayEndpoint → Bool) :
    ℕ → DirectoryReader (List RelayEndpoint)
  | 0 => pure []
  | count + 1 => do
      let first ← readEndpoint accepts
      let others ← readEndpoints accepts count
      pure (first :: others)

def readDirectory (accepts : RelayEndpoint → Bool) :
    DirectoryReader SignedRelayDirectory := do
  let domain ← DirectoryReader.take (ascii "resilient/relay-directory/v1").length
  ensure (domain = ascii "resilient/relay-directory/v1") .invalidResponse
  let version ← DirectoryReader.u64
  let issuedAt ← DirectoryReader.u64
  let expiresAt ← DirectoryReader.u64
  let count ← DirectoryReader.u16
  ensure (count.toNat ≤ 32) .invalidResponse
  let endpoints ← readEndpoints accepts count.toNat
  let signature ← DirectoryReader.array 64
  DirectoryReader.finish
  pure { version, issuedAt, expiresAt, endpoints, signature }

def encode (directory : SignedRelayDirectory) : Except TransportError Bytes := do
  let value ← directory.signingBytes
  pure (value ++ directory.signature.toList)

def decode (value : Bytes) : Except TransportError SignedRelayDirectory :=
  decodeWith (readDirectory hasSchemes) value

/-! ## What the readers accept -/

theorem putString_eq_ok {text : String} {bytes : Bytes} :
    putString text = .ok bytes ↔ (utf8 text).length ≤ 2048 ∧
      bytes = toBigEndian 2 (utf8 text).length ++ utf8 text := by
  unfold putString
  split
  case isTrue hlong => simp [Nat.not_le.mpr hlong]
  case isFalse hshort => simp [Nat.not_lt.mp hshort, eq_comm]

theorem u16_eq_ok {value : UInt16} {input unread : Bytes} :
    DirectoryReader.u16 input = .ok (value, unread) ↔
      input = toBigEndian 2 value.toNat ++ unread := by
  simp only [DirectoryReader.u16, ByteReader.bind_eq_ok, ByteReader.word_eq_ok,
    ByteReader.pure_eq_ok, Prod.mk.injEq]
  constructor
  · rintro ⟨number, _, ⟨hnumber, rfl⟩, rfl, rfl⟩
    rw [UInt16.toNat_ofNat_of_lt' hnumber]
  · rintro rfl
    exact ⟨value.toNat, unread, ⟨value.toNat_lt, rfl⟩, by simp, rfl⟩

theorem u64_eq_ok {value : UInt64} {input unread : Bytes} :
    DirectoryReader.u64 input = .ok (value, unread) ↔
      input = toBigEndian 8 value.toNat ++ unread := by
  simp only [DirectoryReader.u64, ByteReader.bind_eq_ok, ByteReader.word_eq_ok,
    ByteReader.pure_eq_ok, Prod.mk.injEq]
  constructor
  · rintro ⟨number, _, ⟨hnumber, rfl⟩, rfl, rfl⟩
    rw [UInt64.toNat_ofNat_of_lt' hnumber]
  · rintro rfl
    exact ⟨value.toNat, unread, ⟨value.toNat_lt, rfl⟩, by simp, rfl⟩

/-- A string is read exactly where it was written. -/
theorem string_eq_ok {text : String} {input unread : Bytes} :
    DirectoryReader.string input = .ok (text, unread) ↔
      ∃ bytes, putString text = .ok bytes ∧ input = bytes ++ unread := by
  simp only [DirectoryReader.string, DirectoryReader.take, ByteReader.bind_eq_ok,
    u16_eq_ok, ByteReader.ensure_eq_ok, ByteReader.take_eq_ok, decide_eq_true_eq,
    putString_eq_ok]
  constructor
  · rintro ⟨length, _, rfl, _, _, ⟨hlength, rfl⟩, bytes, _, ⟨hbytes, rfl⟩, hmatch⟩
    cases htext : ofUtf8? bytes with
    | none => simp [htext] at hmatch
    | some found =>
        simp only [htext, ByteReader.pure_eq_ok, Prod.mk.injEq] at hmatch
        obtain ⟨rfl, rfl⟩ := hmatch
        have hutf8 := ofUtf8?_eq_some.mp htext
        refine ⟨_, ⟨?_, rfl⟩, ?_⟩
        · rwa [hutf8, hbytes]
        · rw [hutf8, hbytes, List.append_assoc]
  · rintro ⟨_, ⟨hlength, rfl⟩, rfl⟩
    have hword : (UInt16.ofNat (utf8 text).length).toNat = (utf8 text).length :=
      UInt16.toNat_ofNat_of_lt' (by change _ < 65536; omega)
    refine ⟨UInt16.ofNat (utf8 text).length, utf8 text ++ unread, ?_, (), _,
      ⟨?_, rfl⟩, utf8 text, unread, ⟨hword.symm, rfl⟩, ?_⟩
    · rw [hword, List.append_assoc]
    · rwa [hword]
    · simp [ofUtf8?_eq_some.mpr rfl]

theorem signingBytes_eq_ok {endpoint : RelayEndpoint} {bytes : Bytes} :
    endpoint.signingBytes = .ok bytes ↔
      ∃ websocketUrl httpsUrl, putString endpoint.websocketUrl = .ok websocketUrl ∧
        putString endpoint.httpsUrl = .ok httpsUrl ∧
        bytes = endpoint.endpointId.toList ++
          toBigEndian 2 endpoint.priority.toNat ++ websocketUrl ++ httpsUrl := by
  simp only [RelayEndpoint.signingBytes, bind_eq_ok, pure_eq_ok, eq_comm (a := bytes)]
  constructor
  · rintro ⟨websocketUrl, hwebsocket, httpsUrl, hhttps, hbytes⟩
    exact ⟨websocketUrl, httpsUrl, hwebsocket, hhttps, hbytes⟩
  · rintro ⟨websocketUrl, httpsUrl, hwebsocket, hhttps, hbytes⟩
    exact ⟨websocketUrl, hwebsocket, httpsUrl, hhttps, hbytes⟩

variable {accepts : RelayEndpoint → Bool}

theorem readEndpoint_eq_ok {endpoint : RelayEndpoint} {input unread : Bytes} :
    readEndpoint accepts input = .ok (endpoint, unread) ↔
      accepts endpoint = true ∧
        ∃ bytes, endpoint.signingBytes = .ok bytes ∧ input = bytes ++ unread := by
  simp only [readEndpoint, DirectoryReader.array, ByteReader.bind_eq_ok,
    ByteReader.array_eq_ok, u16_eq_ok, string_eq_ok, ByteReader.ensure_eq_ok,
    ByteReader.pure_eq_ok, Prod.mk.injEq, signingBytes_eq_ok]
  constructor
  · rintro ⟨endpointId, _, rfl, priority, _, rfl, websocketUrl, _,
      ⟨websocketBytes, hwebsocket, rfl⟩, httpsUrl, _, ⟨httpsBytes, hhttps, rfl⟩, _, _,
      ⟨haccepts, rfl⟩, rfl, rfl⟩
    exact ⟨haccepts, _, ⟨websocketBytes, httpsBytes, hwebsocket, hhttps, rfl⟩, by simp⟩
  · rintro ⟨haccepts, _, ⟨websocketBytes, httpsBytes, hwebsocket, hhttps, rfl⟩, rfl⟩
    refine ⟨endpoint.endpointId, _, ?_, endpoint.priority, _, rfl,
      endpoint.websocketUrl, _, ⟨websocketBytes, hwebsocket, rfl⟩, endpoint.httpsUrl,
      unread, ⟨httpsBytes, hhttps, rfl⟩, (), _, ⟨haccepts, rfl⟩, rfl, rfl⟩
    simp

theorem endpointBytes_cons {endpoint : RelayEndpoint} {endpoints : List RelayEndpoint}
    {bytes : Bytes} :
    SignedRelayDirectory.endpointBytes (endpoint :: endpoints) = .ok bytes ↔
      ∃ first rest, endpoint.signingBytes = .ok first ∧
        SignedRelayDirectory.endpointBytes endpoints = .ok rest ∧
        bytes = first ++ rest := by
  simp only [SignedRelayDirectory.endpointBytes, bind_eq_ok, pure_eq_ok,
    eq_comm (a := bytes)]
  constructor
  · rintro ⟨first, hfirst, rest, hrest, hbytes⟩
    exact ⟨first, rest, hfirst, hrest, hbytes⟩
  · rintro ⟨first, rest, hfirst, hrest, hbytes⟩
    exact ⟨first, hfirst, rest, hrest, hbytes⟩

/-- The loop over the endpoints reads what the loop that writes them wrote. -/
theorem readEndpoints_eq_ok {count : ℕ} {endpoints : List RelayEndpoint}
    {input unread : Bytes} :
    readEndpoints accepts count input = .ok (endpoints, unread) ↔
      endpoints.length = count ∧ (∀ endpoint ∈ endpoints, accepts endpoint = true) ∧
        ∃ bytes, SignedRelayDirectory.endpointBytes endpoints = .ok bytes ∧
          input = bytes ++ unread := by
  induction count generalizing endpoints input unread with
  | zero =>
      simp only [readEndpoints, ByteReader.pure_eq_ok, Prod.mk.injEq,
        List.length_eq_zero_iff]
      constructor
      · rintro ⟨rfl, rfl⟩
        exact ⟨rfl, by simp, [], rfl, rfl⟩
      · rintro ⟨rfl, -, bytes, hbytes, rfl⟩
        cases hbytes
        exact ⟨rfl, rfl⟩
  | succ count ih =>
      simp only [readEndpoints, ByteReader.bind_eq_ok, readEndpoint_eq_ok, ih,
        ByteReader.pure_eq_ok, Prod.mk.injEq]
      constructor
      · rintro ⟨first, _, ⟨hfirst, firstBytes, hfirstBytes, rfl⟩, others, _,
          ⟨hcount, hothers, otherBytes, hotherBytes, rfl⟩, rfl, rfl⟩
        refine ⟨by rw [List.length_cons, hcount], by simpa using ⟨hfirst, hothers⟩,
          firstBytes ++ otherBytes, ?_, by rw [List.append_assoc]⟩
        exact endpointBytes_cons.mpr
          ⟨firstBytes, otherBytes, hfirstBytes, hotherBytes, rfl⟩
      · rintro ⟨hcount, haccepts, bytes, hbytes, rfl⟩
        cases endpoints with
        | nil => cases hcount
        | cons first others =>
            obtain ⟨firstBytes, otherBytes, hfirstBytes, hotherBytes, rfl⟩ :=
              endpointBytes_cons.mp hbytes
            rw [List.forall_mem_cons] at haccepts
            exact ⟨first, otherBytes ++ unread, ⟨haccepts.1, firstBytes, hfirstBytes,
              by rw [List.append_assoc]⟩, others, unread,
              ⟨Nat.succ.inj hcount, haccepts.2, otherBytes, hotherBytes, rfl⟩, rfl, rfl⟩

/-! ## Whole directories -/

/-- The signed bytes before the endpoints. -/
def header (directory : SignedRelayDirectory) : Bytes :=
  ascii "resilient/relay-directory/v1" ++
    toBigEndian 8 directory.version.toNat ++
    toBigEndian 8 directory.issuedAt.toNat ++
    toBigEndian 8 directory.expiresAt.toNat ++
    toBigEndian 2 directory.endpoints.length

/-- A byte string is read as a directory exactly when it is the directory's
fields with the endpoints in their own order. -/
theorem readDirectory_eq_ok {directory : SignedRelayDirectory} {value : Bytes} :
    decodeWith (readDirectory accepts) value = .ok directory ↔
      directory.endpoints.length ≤ 32 ∧
        (∀ endpoint ∈ directory.endpoints, accepts endpoint = true) ∧
        ∃ bytes, SignedRelayDirectory.endpointBytes directory.endpoints = .ok bytes ∧
          value = header directory ++ bytes ++ directory.signature.toList := by
  simp only [ByteReader.decodeWith_eq_ok, readDirectory, DirectoryReader.take,
    DirectoryReader.array, DirectoryReader.finish, ByteReader.bind_eq_ok,
    ByteReader.take_eq_ok, ByteReader.ensure_eq_ok, u64_eq_ok, u16_eq_ok,
    readEndpoints_eq_ok, ByteReader.array_eq_ok, ByteReader.finish_eq_ok,
    ByteReader.pure_eq_ok, Prod.mk.injEq, decide_eq_true_eq]
  constructor
  · rintro ⟨_, domain, _, ⟨-, rfl⟩, _, _, ⟨rfl, rfl⟩, version, _, rfl, issuedAt, _, rfl,
      expiresAt, _, rfl, count, _, rfl, _, _, ⟨hcount, rfl⟩, endpoints, _,
      ⟨hlength, haccepts, bytes, hbytes, rfl⟩, signature, _, rfl, _, _, ⟨rfl, rfl⟩, rfl,
      rfl⟩
    refine ⟨by rwa [hlength], haccepts, bytes, hbytes, ?_⟩
    simp [header, hlength]
  · rintro ⟨hlength, haccepts, bytes, hbytes, rfl⟩
    have hcount : (UInt16.ofNat directory.endpoints.length).toNat =
        directory.endpoints.length :=
      UInt16.toNat_ofNat_of_lt' (by change _ < 65536; omega)
    refine ⟨[], ascii "resilient/relay-directory/v1", _, ⟨rfl, ?_⟩, (), _, ⟨rfl, rfl⟩,
      directory.version, _, rfl, directory.issuedAt, _, rfl, directory.expiresAt, _,
      rfl, UInt16.ofNat directory.endpoints.length, _, rfl, (), _, ⟨by rwa [hcount], rfl⟩,
      directory.endpoints, _, ⟨hcount.symm, haccepts, bytes, hbytes, rfl⟩,
      directory.signature, [], rfl, (), _, ⟨rfl, rfl⟩, rfl, rfl⟩
    rw [hcount]
    simp [header]

/-- The directory with its endpoints in signed order. -/
def inSignedOrder (directory : SignedRelayDirectory) : SignedRelayDirectory :=
  { directory with
    endpoints := directory.endpoints.insertionSort RelayEndpoint.signedBefore }

theorem directory_signingBytes_eq_ok {directory : SignedRelayDirectory} {value : Bytes} :
    directory.signingBytes = .ok value ↔ directory.endpoints.length ≤ 32 ∧
      ∃ bytes, SignedRelayDirectory.endpointBytes (inSignedOrder directory).endpoints =
          .ok bytes ∧ value = header (inSignedOrder directory) ++ bytes := by
  unfold SignedRelayDirectory.signingBytes
  split
  case isTrue hlong => simp [Nat.not_le.mpr hlong]
  case isFalse hshort =>
    simp only [Nat.not_lt.mp hshort, true_and, bind_eq_ok, pure_eq_ok,
      eq_comm (a := value), header, inSignedOrder, List.length_insertionSort]

theorem encode_eq_ok {directory : SignedRelayDirectory} {value : Bytes} :
    encode directory = .ok value ↔ directory.endpoints.length ≤ 32 ∧
      ∃ bytes, SignedRelayDirectory.endpointBytes (inSignedOrder directory).endpoints =
          .ok bytes ∧
        value = header (inSignedOrder directory) ++ bytes ++
          directory.signature.toList := by
  simp only [encode, bind_eq_ok, pure_eq_ok, directory_signingBytes_eq_ok]
  constructor
  · rintro ⟨_, ⟨hlength, bytes, hbytes, rfl⟩, rfl⟩
    exact ⟨hlength, bytes, hbytes, rfl⟩
  · rintro ⟨hlength, bytes, hbytes, rfl⟩
    exact ⟨_, ⟨hlength, bytes, hbytes, rfl⟩, rfl⟩

/-- Without the check of the addresses reading inverts writing. -/
theorem read_encode {directory : SignedRelayDirectory} {value : Bytes}
    (hencode : encode directory = .ok value) :
    decodeWith (readDirectory fun _ => true) value = .ok (inSignedOrder directory) := by
  obtain ⟨hlength, bytes, hbytes, rfl⟩ := encode_eq_ok.mp hencode
  refine readDirectory_eq_ok.mpr ⟨?_, fun _ _ => rfl, bytes, hbytes, rfl⟩
  rwa [inSignedOrder, List.length_insertionSort]

/-- A directory that is read is read without the check of the addresses too. -/
theorem read_of_decode {directory : SignedRelayDirectory} {value : Bytes}
    (hdecode : decode value = .ok directory) :
    decodeWith (readDirectory fun _ => true) value = .ok directory := by
  obtain ⟨hlength, -, bytes, hbytes, hvalue⟩ := readDirectory_eq_ok.mp hdecode
  exact readDirectory_eq_ok.mpr ⟨hlength, fun _ _ => rfl, bytes, hbytes, hvalue⟩

/-! ## Round trips -/

/-- The key of the signed order. -/
def signedKey (endpoint : RelayEndpoint) : ℕ ×ₗ ℕ :=
  toLex (endpoint.priority.toNat, ofBigEndian endpoint.endpointId.toList)

theorem signedBefore_iff (left right : RelayEndpoint) :
    RelayEndpoint.signedBefore left right ↔ signedKey left ≤ signedKey right := by
  unfold RelayEndpoint.signedBefore signedKey
  rw [Prod.Lex.toLex_le_toLex, UInt16.lt_iff_toNat_lt, UInt16.toNat_inj]

theorem inSignedOrder_eq_self_iff {directory : SignedRelayDirectory} :
    inSignedOrder directory = directory ↔
      directory.endpoints.Pairwise RelayEndpoint.signedBefore := by
  have hsorted : directory.endpoints.Pairwise RelayEndpoint.signedBefore ↔
      directory.endpoints.insertionSort RelayEndpoint.signedBefore =
        directory.endpoints := by
    rw [StableSort.insertionSort_eq_sortBy _ signedBefore_iff,
      StableSort.sortBy_eq_self_iff, StableSort.SortedBy]
    exact List.Pairwise.iff signedBefore_iff
  rw [hsorted, inSignedOrder]
  constructor
  · intro hsame
    exact congrArg SignedRelayDirectory.endpoints hsame
  · intro hsame
    rw [hsame]

theorem endpointBytes_ok_iff {endpoints : List RelayEndpoint} :
    (∃ bytes, SignedRelayDirectory.endpointBytes endpoints = .ok bytes) ↔
      ∀ endpoint ∈ endpoints, ∃ bytes, endpoint.signingBytes = .ok bytes := by
  induction endpoints with
  | nil => simp [SignedRelayDirectory.endpointBytes]
  | cons endpoint endpoints ih =>
      rw [List.forall_mem_cons, ← ih]
      simp only [endpointBytes_cons]
      constructor
      · rintro ⟨_, first, rest, hfirst, hrest, rfl⟩
        exact ⟨⟨first, hfirst⟩, rest, hrest⟩
      · rintro ⟨⟨first, hfirst⟩, rest, hrest⟩
        exact ⟨first ++ rest, first, rest, hfirst, hrest, rfl⟩

theorem encode_of_decode {directory : SignedRelayDirectory} {value : Bytes}
    (hdecode : decode value = .ok directory) :
    ∃ bytes, encode directory = .ok bytes := by
  obtain ⟨hlength, -, written, hwritten, -⟩ := readDirectory_eq_ok.mp hdecode
  have hall := endpointBytes_ok_iff.mp ⟨written, hwritten⟩
  have hsorted : ∀ endpoint ∈ (inSignedOrder directory).endpoints,
      ∃ bytes, endpoint.signingBytes = .ok bytes := by
    intro endpoint hendpoint
    exact hall endpoint ((List.mem_insertionSort _).mp hendpoint)
  obtain ⟨bytes, hbytes⟩ := endpointBytes_ok_iff.mpr hsorted
  exact ⟨_, encode_eq_ok.mpr ⟨hlength, bytes, hbytes, rfl⟩⟩

/-- What is written is read back in signed order if all addresses have their
schemes, and refused otherwise.  What is read can be written, and is written as it
was read exactly when its endpoints are in signed order. -/
theorem directory_round_trip :
    (∀ directory value, encode directory = .ok value →
      ((∀ endpoint ∈ directory.endpoints, hasSchemes endpoint = true) →
          decode value = .ok (inSignedOrder directory)) ∧
        ((¬∀ endpoint ∈ directory.endpoints, hasSchemes endpoint = true) →
          ∃ failure, decode value = .error failure)) ∧
    ∀ value directory, decode value = .ok directory →
      (∃ bytes, encode directory = .ok bytes) ∧
        (encode directory = .ok value ↔
          directory.endpoints.Pairwise RelayEndpoint.signedBefore) := by
  constructor
  · intro directory value hencode
    have hread := read_encode hencode
    have hmem (endpoint : RelayEndpoint) :
        endpoint ∈ (inSignedOrder directory).endpoints ↔
          endpoint ∈ directory.endpoints :=
      List.mem_insertionSort _
    constructor
    · intro hschemes
      obtain ⟨hlength, -, bytes, hbytes, hvalue⟩ := readDirectory_eq_ok.mp hread
      refine readDirectory_eq_ok.mpr ⟨hlength, ?_, bytes, hbytes, hvalue⟩
      intro endpoint hendpoint
      exact hschemes endpoint ((hmem endpoint).mp hendpoint)
    · intro hschemes
      cases hdecode : decode value with
      | error failure => exact ⟨failure, rfl⟩
      | ok decoded =>
          have hsame := read_of_decode hdecode
          rw [hread] at hsame
          cases hsame
          have haccepted := (readDirectory_eq_ok.mp hdecode).2.1
          exact absurd (fun endpoint hendpoint =>
            haccepted endpoint ((hmem endpoint).mpr hendpoint)) hschemes
  · intro value directory hdecode
    refine ⟨encode_of_decode hdecode, ?_⟩
    rw [← inSignedOrder_eq_self_iff]
    constructor
    · intro hencode
      have hsame := read_encode hencode
      rw [read_of_decode hdecode] at hsame
      exact (Except.ok.inj hsame).symm
    · intro hsorted
      obtain ⟨hlength, -, bytes, hbytes, rfl⟩ := readDirectory_eq_ok.mp hdecode
      refine encode_eq_ok.mpr ⟨hlength, bytes, ?_, ?_⟩
      · rw [hsorted, hbytes]
      · rw [hsorted]

/-- Two relays listed against their priorities. -/
def unorderedDirectory : SignedRelayDirectory where
  version := 2
  issuedAt := 0
  expiresAt := 3600
  endpoints :=
    [⟨FixedBytes.fill 16 2, "wss://b/ws", "https://b/sync", 2⟩,
      ⟨FixedBytes.fill 16 1, "wss://a/ws", "https://a/sync", 1⟩]
  signature := FixedBytes.fill 64 0

def unorderedBytes : Bytes := (encode unorderedDirectory).toOption.getD []

/-- The relays are read back in signed order, and that directory is written as it
was read. -/
theorem unordered_directory_round_trip :
    decode unorderedBytes = .ok (inSignedOrder unorderedDirectory) ∧
      encode (inSignedOrder unorderedDirectory) = .ok unorderedBytes := by
  have hencode : encode unorderedDirectory = .ok unorderedBytes := by decide +kernel
  have hdecode := (directory_round_trip.1 unorderedDirectory unorderedBytes hencode).1
    (by decide +kernel)
  exact ⟨hdecode, ((directory_round_trip.2 unorderedBytes _ hdecode).2).mpr
    (by decide +kernel)⟩

end ResilientMessenger.DirectoryCodec
