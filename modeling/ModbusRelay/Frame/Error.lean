/-!
The three ways in which bytes fail to be a frame, and their wording.
-/

namespace ModbusRelay

/-- Why bytes are not one frame. -/
inductive FrameError where
  /-- There are `length` bytes where at least `needed` are read. -/
  | truncated (length needed : Nat)
  /-- The length field is outside 1 to 254. -/
  | invalidLength (declared : UInt16)
  /-- The header declares `expected` bytes in all, and there are `actual`. -/
  | lengthMismatch (expected actual : Nat)
  deriving DecidableEq, Repr

namespace FrameError

/-- The wording of an error. -/
def message : FrameError → String
  | .truncated length needed =>
    "frame truncated: " ++ toString length ++ " bytes, need at least " ++ toString needed
  | .invalidLength declared =>
    "invalid MBAP length field " ++ toString declared.toNat ++ " (expected 1..=254)"
  | .lengthMismatch expected actual =>
    "frame length mismatch: header declares " ++ toString expected ++ " bytes, got "
      ++ toString actual

end FrameError

end ModbusRelay
