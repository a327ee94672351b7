import ModbusRelay.Frame.Stream
import ModbusRelay.Log
import ModbusRelay.Pending.Table
import ModbusRelay.Priority
import ModbusRelay.Relay.Request

/-!
What happens in a relay. Every step of a relay produces a list of events; the log is read off them
here, down to the level for debugging, and the metrics in `Metrics.Basic`, so neither is part of the
relay's own state. Sockets are taken to accept the option that small packets are sent at once, on
which nothing depends; the lines in which its failure would be logged are left out.
-/

namespace ModbusRelay

/-- One thing that has happened. -/
inductive RelayEvent where
  /-- The relay runs. -/
  | started (listen target : SocketAddress) (policy : DuplicatePolicy)
  | stopping (listen : SocketAddress)
  /-- Requests that were still queued when the relay stopped. -/
  | discarded (count : Nat)
  | stopped (listen : SocketAddress)
  | acceptFailed (cause : IoError)
  /-- A session begins or ends. -/
  | connected (who : Requester) (priority : Priority)
  | disconnected (who : Requester)
  /-- A session has read a request. -/
  | received (priority : Priority) (request : Request)
  | readFailed (who : Requester) (cause : RelayError)
  /-- The client has ended what it sends. -/
  | clientEnded (who : Requester)
  /-- A session that waits has noticed that the relay is cancelled. -/
  | sessionStopping (who : Requester)
  /-- A session has written a response. -/
  | delivered (who : Requester) (response : Frame)
  | writeFailed (who : Requester) (id : UInt16) (cause : RelayError)
  /-- A request is on the queue. -/
  | enqueued (priority : Priority) (request : Request)
  /-- The dispatcher has taken a request off the queue. -/
  | taken (priority : Priority) (request : Request)
  | recorded (request : Request)
  | displaced (request : Request) (orphan : Requester)
  | refused (request : Request) (cause : PendingError)
  /-- The dispatcher is about to write a request to the device. -/
  | forwarding (priority : Priority) (request : Request)
  | forwarded (request : Request)
  | forwardFailed (request : Request) (cause : RelayError)
  /-- The number of requests in flight is published. -/
  | pending (count : Nat)
  /-- The response is in the mailbox of the client that is waiting for it. -/
  | routed (who : Requester) (response : Frame)
  /-- Nobody waits for the response. -/
  | missed (response : Frame)
  /-- The client that waited for the response has gone. -/
  | recipientGone (who : Requester) (response : Frame)
  /-- The client that waited for the response does not take its responses. -/
  | recipientFull (who : Requester) (response : Frame)
  /-- The device ended the connection, or sent what is no frame. -/
  | deviceClosed
  | deviceReadFailed (cause : RelayError)
  /-- The relay gives the device up. -/
  | deviceLost
  | abandoned (count : Nat)
  | routerStopped
  | dispatcherStopped
  /-- The listener is closed, and every session is over. -/
  | acceptorStopped
  deriving DecidableEq

namespace RelayEvent

/-- The fields that say which request a line is about. -/
def requestFields (request : Request) : List (String × LogValue) :=
  [ ("transaction_id", .number request.transactionId.toNat),
    ("client_addr", .text request.requester.peer.text) ]

/-- The fields that say which response to whom a line is about. -/
def responseFields (who : Requester) (response : Frame) : List (String × LogValue) :=
  [ ("transaction_id", .number response.transactionId.toNat), ("client_addr", .text who.peer.text) ]

/-- The log line of an event, if it has one. -/
def logLine? : RelayEvent → Option LogLine
  | .started listen target policy =>
    some
      ⟨.info, "Modbus proxy started",
        [ ("listen_addr", .text listen.text), ("target_addr", .text target.text),
          ("duplicate_policy", .text policy.name) ]⟩
  | .stopping listen =>
    some ⟨.info, "Shutting down Modbus proxy", [("listen_addr", .text listen.text)]⟩
  | .discarded count =>
    some ⟨.warn, "Discarded queued requests on shutdown", [("dropped", .number count)]⟩
  | .stopped listen => some ⟨.info, "Modbus proxy stopped", [("listen_addr", .text listen.text)]⟩
  | .acceptFailed cause => some ⟨.warn, "Accept failed", [("error", .text cause.message)]⟩
  | .connected _ priority =>
    some ⟨.info, "Client connected", [("priority", .text priority.label)]⟩
  | .disconnected _ => some ⟨.info, "Client session closed", []⟩
  | .received priority request =>
    some
      ⟨.debug, "Enqueueing request",
        [ ("transaction_id", .number request.transactionId.toNat),
          ("priority", .text priority.label), ("len", .number request.frame.size) ]⟩
  | .clientEnded _ => some ⟨.debug, "Connection closed by client", []⟩
  | .sessionStopping _ => some ⟨.debug, "Closing client session for shutdown", []⟩
  | .delivered _ response =>
    some
      ⟨.debug, "Response delivered",
        [("transaction_id", .number response.transactionId.toNat)]⟩
  | .readFailed _ cause =>
    some ⟨.warn, "Client read failed; closing connection", [("error", .text cause.message)]⟩
  | .writeFailed _ id cause =>
    some
      ⟨.warn, "Client write failed; closing connection",
        [("transaction_id", .number id.toNat), ("error", .text cause.message)]⟩
  | .displaced request orphan =>
    some
      ⟨.warn, "Replaced pending transaction; earlier requester will not be answered",
        requestFields request ++ [("orphaned_client", .text orphan.peer.text)]⟩
  | .refused request cause =>
    some ⟨.warn, "Dropping request", requestFields request ++ [("error", .text cause.message)]⟩
  | .forwarding priority request =>
    some
      ⟨.debug, "Forwarding request downstream",
        requestFields request ++ [("priority", .text priority.label)]⟩
  | .forwardFailed request cause =>
    some
      ⟨.error, "Downstream write failed",
        requestFields request ++ [("error", .text cause.message)]⟩
  | .missed response =>
    some
      ⟨.warn, "No pending request for response; dropping",
        [ ("transaction_id", .number response.transactionId.toNat),
          ("len", .number response.size) ]⟩
  | .routed who response => some ⟨.debug, "Routed response", responseFields who response⟩
  | .recipientGone who response =>
    some
      ⟨.warn, "Client disconnected before its response arrived; dropping",
        responseFields who response⟩
  | .recipientFull who response =>
    some ⟨.warn, "Client response queue full; dropping", responseFields who response⟩
  | .deviceClosed =>
    some
      ⟨.error, "Downstream device closed the connection; pending requests will not be answered", []⟩
  | .deviceReadFailed cause =>
    some
      ⟨.error, "Downstream read failed; pending requests will not be answered",
        [("error", .text cause.message)]⟩
  | .abandoned count =>
    some ⟨.warn, "Abandoned in-flight requests", [("abandoned", .number count)]⟩
  | .routerStopped => some ⟨.debug, "Response router stopped", []⟩
  | .dispatcherStopped => some ⟨.debug, "Dispatcher stopped", []⟩
  | .acceptorStopped => some ⟨.debug, "Acceptor stopped", []⟩
  | .enqueued .. | .taken .. | .recorded .. | .forwarded .. | .pending .. | .deviceLost => none

end RelayEvent

end ModbusRelay
