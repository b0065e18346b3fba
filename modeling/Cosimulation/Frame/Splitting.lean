import Cosimulation.Frame.Reading
/-!
# Splitting bytes into frames

The bytes written to a channel are the frames written one after the other, and perhaps the beginning
of one more.  `split` recovers the payloads of the complete frames and the bytes behind the last of
them.
-/

namespace Cosimulation.Frame

set_option autoImplicit false

/-- The payload of the frame at the front of a byte string, and the bytes behind it. -/
def front? (bytes : List UInt8) : Option (List UInt8 × List UInt8) :=
  match read maximalLength (.ofArrivals [.data bytes]) with
  | (.ok (some payload), channel) => some (payload, bytes.drop channel.taken)
  | _ => none

/-- The payloads of the first so many frames of a byte string, and the bytes behind them. -/
def splitFirst : Nat → List UInt8 → List (List UInt8) × List UInt8
  | 0, bytes => ([], bytes)
  | count + 1, bytes =>
    match front? bytes with
    | none => ([], bytes)
    | some (payload, rest) =>
      match splitFirst count rest with
      | (payloads, rest) => (payload :: payloads, rest)

/-- The payloads of the frames of a byte string, and the bytes that are no frame any more.  A byte
string has fewer frames than bytes. -/
def split (bytes : List UInt8) : List (List UInt8) × List UInt8 :=
  splitFirst bytes.length bytes

end Cosimulation.Frame
