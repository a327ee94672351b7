import ModbusRelay.Frame.Header

/-!
A frame is a list of bytes that starts with a header and is as long as that header declares.
The bytes are kept as they came and are never changed.

`ofBytes` is the only way in, and its failure says which of the three conditions is violated.
-/

namespace ModbusRelay

/-- Bytes that are exactly one frame, with their header. -/
structure Frame where
  bytes : List UInt8
  header : Header
  parse_bytes : Header.parse bytes = .ok header
  size_eq : header.frameSize = bytes.length
  deriving DecidableEq

namespace Frame

/-- Accepts bytes that are exactly one frame. -/
def ofBytes (bytes : List UInt8) : Except FrameError Frame :=
  match h : Header.parse bytes with
  | .error e => .error e
  | .ok header =>
    if size : header.frameSize = bytes.length then .ok ⟨bytes, header, h, size⟩
    else .error (.lengthMismatch header.frameSize bytes.length)

/-- The number by which a response is matched to its request. -/
def transactionId (f : Frame) : UInt16 := f.header.transactionId

/-- The unit behind the device that is addressed. -/
def unitId (f : Frame) : UInt8 := f.header.unitId

/-- The number of bytes. -/
def size (f : Frame) : Nat := f.bytes.length

/-- What goes over the wire: the bytes as they are. -/
def encode (f : Frame) : List UInt8 := f.bytes

end Frame

end ModbusRelay
