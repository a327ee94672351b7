import ModbusRelay.Frame.Basic
import ModbusRelay.Address.Socket

/-!
Requests, and who made them. Clients are numbered in the order in which they came.
-/

namespace ModbusRelay

/-- Where the response to a request has to go. -/
structure Requester where
  client : Nat
  peer : SocketAddress
  deriving DecidableEq, Repr

/-- A frame on its way to the device, with the client that sent it. -/
structure Request where
  requester : Requester
  frame : Frame
  deriving DecidableEq

/-- The transaction id of the frame. -/
def Request.transactionId (r : Request) : UInt16 := r.frame.transactionId

end ModbusRelay
