import ModbusRelay.Frame.Error

/-!
The header of a Modbus/TCP frame: transaction id, protocol id and length, two bytes each with
the high byte first, then the unit id. The length counts the unit id and what follows it, so a
frame has six bytes more than its length field says.

Only the header is ever looked at: the transaction id to route by, the length to delimit by.
-/

namespace ModbusRelay

/-- The 16-bit number of two bytes, high byte first. -/
def word (high low : UInt8) : UInt16 :=
  high.toUInt16 <<< 8 ||| low.toUInt16

/-- The bytes in front of what the length field counts. -/
def preambleSize : Nat := 6

/-- The whole header, with the unit id. -/
def headerSize : Nat := 7

/-- The largest legal length field: a unit id and 253 bytes. -/
def maxLength : UInt16 := 254

/-- The largest legal frame. -/
def maxFrameSize : Nat := preambleSize + maxLength.toNat

/-- A length field is legal from 1 to `maxLength`. -/
def LegalLength (length : UInt16) : Prop := length ≠ 0 ∧ length ≤ maxLength

instance (length : UInt16) : Decidable (LegalLength length) :=
  inferInstanceAs (Decidable (_ ∧ _))

/-- The fields of a header. -/
structure Header where
  transactionId : UInt16
  protocolId : UInt16
  length : UInt16
  unitId : UInt8
  deriving DecidableEq, Repr

namespace Header

/-- Reads the header at the front of some bytes. Too few bytes win over a bad length field. -/
def parse : List UInt8 → Except FrameError Header
  | t1 :: t0 :: p1 :: p0 :: n1 :: n0 :: unit :: _ =>
    if LegalLength (word n1 n0) then
      .ok
        { transactionId := word t1 t0
          protocolId := word p1 p0
          length := word n1 n0
          unitId := unit }
    else
      .error (.invalidLength (word n1 n0))
  | bytes => .error (.truncated bytes.length headerSize)

/-- The bytes that the whole frame occupies. -/
def frameSize (h : Header) : Nat := preambleSize + h.length.toNat

end Header

/-- The transaction id in the first two bytes. -/
def transactionId : List UInt8 → Except FrameError UInt16
  | t1 :: t0 :: _ => .ok (word t1 t0)
  | bytes => .error (.truncated bytes.length 2)

/-- The size of the frame that starts a buffer; `none` while the length field is not there yet. -/
def declaredSize : List UInt8 → Except FrameError (Option Nat)
  | _ :: _ :: _ :: _ :: n1 :: n0 :: _ =>
    if LegalLength (word n1 n0) then
      .ok (some (preambleSize + (word n1 n0).toNat))
    else
      .error (.invalidLength (word n1 n0))
  | _ => .ok none

end ModbusRelay
