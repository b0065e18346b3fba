/-!
# The frame checksum

Every frame ends in the 32-bit cyclic redundancy check of its payload: the reflected polynomial
`0xEDB88320`, an all-ones register at the start, and the complement of the register at the end.
The register is advanced bit by bit, so that each step is a shift and a conditional `xor` and the
whole check is, up to the two complements, linear over `xor`.
-/

namespace Cosimulation.Checksum

set_option autoImplicit false

/-- The reflected generator polynomial. -/
def polynomial : UInt32 := 0xEDB88320

/-- Shifts one bit out of the register. -/
def shift (register : UInt32) : UInt32 :=
  if register &&& 1 = 1 then (register >>> 1) ^^^ polynomial else register >>> 1

/-- Shifts `count` bits out of the register. -/
def shifts : (count : Nat) → UInt32 → UInt32
  | 0, register => register
  | count + 1, register => shifts count (shift register)

/-- Feeds one byte to the register. -/
def feed (register : UInt32) (byte : UInt8) : UInt32 :=
  shifts 8 (register ^^^ byte.toUInt32)

/-- The checksum of a byte string. -/
def ofBytes (bytes : List UInt8) : UInt32 :=
  bytes.foldl feed 0xFFFFFFFF ^^^ 0xFFFFFFFF

end Cosimulation.Checksum
