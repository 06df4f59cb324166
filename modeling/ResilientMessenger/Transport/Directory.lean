import Mathlib.Data.List.Sort
import ResilientMessenger.Core.Signature

/-!
# Signed relay directories

The list of relays a client may use, with its validity interval and the
signature of the directory authority.  The signed bytes fix an order of the
endpoints that does not depend on the order of the list.
-/

namespace ResilientMessenger.Directory

open ResilientMessenger.ByteCodec

inductive TransportError where
  | invalidDirectorySignature
  | expiredDirectory
  | directoryRollback
  | frameTooLarge
  | unavailable
  | invalidResponse
  deriving DecidableEq, Repr

structure RelayEndpoint where
  endpointId : Id16
  websocketUrl : String
  httpsUrl : String
  priority : UInt16
  deriving DecidableEq

structure SignedRelayDirectory where
  version : UInt64
  issuedAt : UInt64
  expiresAt : UInt64
  endpoints : List RelayEndpoint
  signature : FixedBytes 64
  deriving DecidableEq

/-- `left.saturating_add(right)`. -/
def saturatingAdd (left right : UInt64) : UInt64 :=
  UInt64.ofNat (min (left.toNat + right.toNat) (2 ^ 64 - 1))

def putString (value : String) : Except TransportError Bytes :=
  if 2048 < (utf8 value).length then .error .invalidResponse
  else .ok (toBigEndian 2 (utf8 value).length ++ utf8 value)

namespace RelayEndpoint

/-- The order of the signed bytes: by priority, then by id.  Arrays of equal
length compare like the numbers they denote. -/
def signedBefore (left right : RelayEndpoint) : Prop :=
  left.priority < right.priority ∨
    left.priority = right.priority ∧
      ofBigEndian left.endpointId.toList ≤ ofBigEndian right.endpointId.toList

instance : DecidableRel signedBefore := fun left right =>
  inferInstanceAs (Decidable (left.priority < right.priority ∨
    left.priority = right.priority ∧
      ofBigEndian left.endpointId.toList ≤ ofBigEndian right.endpointId.toList))

def signingBytes (endpoint : RelayEndpoint) : Except TransportError Bytes := do
  let websocketUrl ← putString endpoint.websocketUrl
  let httpsUrl ← putString endpoint.httpsUrl
  pure (endpoint.endpointId.toList ++ toBigEndian 2 endpoint.priority.toNat ++
    websocketUrl ++ httpsUrl)

end RelayEndpoint

namespace SignedRelayDirectory

/-- The loop over the sorted endpoints, stopping at the first that does not
fit. -/
def endpointBytes : List RelayEndpoint → Except TransportError Bytes
  | [] => .ok []
  | endpoint :: endpoints => do
      let first ← endpoint.signingBytes
      let rest ← endpointBytes endpoints
      pure (first ++ rest)

def signingBytes (directory : SignedRelayDirectory) :
    Except TransportError Bytes :=
  if 32 < directory.endpoints.length then .error .invalidResponse
  else do
    let endpoints ← endpointBytes
      (directory.endpoints.insertionSort RelayEndpoint.signedBefore)
    pure (ascii "resilient/relay-directory/v1" ++
      toBigEndian 8 directory.version.toNat ++
      toBigEndian 8 directory.issuedAt.toNat ++
      toBigEndian 8 directory.expiresAt.toNat ++
      toBigEndian 2 directory.endpoints.length ++ endpoints)

def verify (scheme : SignatureScheme) (directory : SignedRelayDirectory)
    (publicKey : Id32) (now minimumVersion : UInt64) : Except TransportError Unit :=
  if directory.version < minimumVersion then .error .directoryRollback
  else if saturatingAdd now 300 < directory.issuedAt ∨
      directory.expiresAt ≤ now ∨ directory.expiresAt ≤ directory.issuedAt then
    .error .expiredDirectory
  else if !scheme.validKey publicKey then .error .invalidDirectorySignature
  else
    match directory.signingBytes with
    | .error failure => .error failure
    | .ok message =>
        if scheme.verify publicKey message directory.signature then .ok ()
        else .error .invalidDirectorySignature

end SignedRelayDirectory

end ResilientMessenger.Directory
