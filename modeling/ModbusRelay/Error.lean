import ModbusRelay.Frame.Error

/-!
What can go wrong with a relay: failures of sockets, and the failures that the relay itself reports
with them. Every wording is here; elsewhere an error is a cause.
-/

namespace ModbusRelay

/-- Failures of input and output. -/
inductive IoError where
  | tooManyOpenFiles
  | brokenPipe
  | addressFamilyNotSupported
  | addressInUse
  | addressNotAvailable
  | networkUnreachable
  | connectionReset
  | notConnected
  | connectionRefused
  /-- An address without a colon. -/
  | invalidSocketAddress
  /-- What follows the last colon of an address is no port number. -/
  | invalidPort
  /-- The host of an address is neither an IP address nor a known name. -/
  | unknownName
  | invalidUtf8
  /-- A stream ended inside a frame. -/
  | bytesRemaining
  | other (text : String)
  deriving DecidableEq, Repr

namespace IoError

/-- The wording of an error that the operating system numbers. -/
def numbered (text : String) (code : Nat) : String :=
  text ++ " (os error " ++ toString code ++ ")"

/-- The wording of a failure. -/
def message : IoError → String
  | .tooManyOpenFiles => numbered "Too many open files" 24
  | .brokenPipe => numbered "Broken pipe" 32
  | .addressFamilyNotSupported => numbered "Address family not supported by protocol" 97
  | .addressInUse => numbered "Address already in use" 98
  | .addressNotAvailable => numbered "Cannot assign requested address" 99
  | .networkUnreachable => numbered "Network is unreachable" 101
  | .connectionReset => numbered "Connection reset by peer" 104
  | .notConnected => numbered "Transport endpoint is not connected" 107
  | .connectionRefused => numbered "Connection refused" 111
  | .invalidSocketAddress => "invalid socket address"
  | .invalidPort => "invalid port value"
  | .unknownName => "failed to lookup address information: Name or service not known"
  | .invalidUtf8 => "stream did not contain valid UTF-8"
  | .bytesRemaining => "bytes remaining on stream"
  | .other text => text

end IoError

/-- Failures of a relay: the first four keep it from starting, `control` keeps the control server
from starting, and the last two end one connection. A relay whose new sockets do not tell their
addresses does not start either, which is an `io` failure. -/
inductive RelayError where
  | bind (address : String) (cause : IoError)
  | connect (address : String) (cause : IoError)
  | connectTimeout (address : String) (milliseconds : Nat)
  | workers (cause : IoError)
  | control (address : String) (reason : String)
  | io (cause : IoError)
  | framing (cause : FrameError)
  deriving DecidableEq, Repr

namespace RelayError

/-- The wording of a failure, with the address it is about and its cause. -/
def message : RelayError → String
  | .bind address cause => "failed to bind listener on " ++ address ++ ": " ++ cause.message
  | .connect address cause =>
    "failed to connect to downstream device " ++ address ++ ": " ++ cause.message
  | .connectTimeout address milliseconds =>
    "timed out connecting to downstream device " ++ address ++ " after "
      ++ toString milliseconds ++ " ms"
  | .workers cause => "failed to build async runtime: " ++ cause.message
  | .control address reason =>
    "failed to start control server on " ++ address ++ ": " ++ reason
  | .io cause => "I/O error: " ++ cause.message
  | .framing cause => "framing error: " ++ cause.message

/-- Did the relay never come up? -/
def isStartup : RelayError → Bool
  | .bind .. | .connect .. | .connectTimeout .. | .workers .. => true
  | .control .. | .io .. | .framing .. => false

end RelayError

end ModbusRelay
