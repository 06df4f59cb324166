import ResilientMessenger.Core.ByteCodec

/-!
# Hexadecimal text

Two lower-case digits for an octet, high half first.
-/

namespace ResilientMessenger.Hex

open ResilientMessenger.ByteCodec

/-- The lower-case digit of a value below 16. -/
def digit (value : UInt8) : UInt8 :=
  if value < 10 then 48 + value else 87 + value

def encode : Bytes → Bytes
  | [] => []
  | octet :: octets => digit (octet >>> 4) :: digit (octet &&& 15) :: encode octets

end ResilientMessenger.Hex
