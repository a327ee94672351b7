import ModbusRelay.Host.Basic
import ModbusRelay.Http
import ModbusRelay.Json.StartRequest

/-!
The web interface by which a relay is started, stopped and asked for its status. Every answer is
a JSON object, and only the three known pairs of method and path are answered with code 200. That
receiving a request or sending an answer fails is left out, with the lines in which it would be
logged. The two web servers, this one and the one for the metrics, are bound here.
-/

namespace ModbusRelay

/-- What the control interface answers. -/
inductive ControlReply where
  | started (status : StartStatus)
  | stopped (status : StopStatus)
  | status (status : HostStatus)
  /-- The body is no text. -/
  | unreadable (cause : IoError)
  /-- The body is no start request. -/
  | invalid (cause : JsonError)
  | targetMissing
  | failed (cause : RelayError)
  | notFound
  deriving DecidableEq

namespace ControlReply

/-- The status code of an answer. -/
def code : ControlReply → Nat
  | .started _ | .stopped _ | .status _ => 200
  | .unreadable _ | .invalid _ | .targetMissing => 400
  | .failed _ => 500
  | .notFound => 404

/-- An object with one field. -/
def single (key value : String) : String :=
  "\x7b" ++ jsonQuoted key ++ ":" ++ jsonQuoted value ++ "\x7d"

/-- A truth value in JSON. -/
def truth (b : Bool) : String := if b then "true" else "false"

/-- The body of an answer, with the keys in alphabetical order. -/
def body : ControlReply → String
  | .started s => single "status" s.name
  | .stopped s => single "status" s.name
  | .status ⟨running, deviceUp, none⟩ =>
    "\x7b\"downstream_connected\":" ++ truth deviceUp ++ ",\"running\":" ++ truth running ++ "\x7d"
  | .status ⟨running, deviceUp, some (listen, target)⟩ =>
    "\x7b\"downstream_connected\":" ++ truth deviceUp
      ++ ",\"listen_addr\":" ++ jsonQuoted listen.text
      ++ ",\"running\":" ++ truth running
      ++ ",\"target_addr\":" ++ jsonQuoted target.text ++ "\x7d"
  | .unreadable cause => single "error" ("failed to read body: " ++ cause.message)
  | .invalid cause => single "error" ("invalid request body: " ++ cause.message)
  | .targetMissing => single "error" "target_host and target_port are required"
  | .failed cause => single "error" cause.message
  | .notFound => single "error" "not found"

/-- The answer as it is sent. -/
def response (r : ControlReply) : HttpResponse := ⟨r.code, "application/json", r.body⟩

end ControlReply

namespace Host

/-- Starts a relay as the text of a start request says; a blank text stands for no fields. -/
def startRequested (h : Host) (text : String) : ControlReply × Host :=
  match StartRequest.parse (if (trimChars text.toList).isEmpty then "\x7b\x7d" else text) with
  | .error cause => (.invalid cause, h)
  | .ok request =>
    match request.targetHost, request.targetPort with
    | some targetHost, some targetPort =>
      match h.start request.listenHost request.listenPort targetHost targetPort with
      | (.ok status, h) => (.started status, h)
      | (.error cause, h) =>
        (.failed cause, h.say ⟨.warn, "Proxy start failed", [("error", .text cause.message)]⟩)
    | _, _ => (.targetMissing, h)

/-- What a request to the control interface does, and the answer to it. -/
def handle (h : Host) (request : HttpRequest) : ControlReply × Host :=
  match request.method, request.path with
  | "POST", "/api/proxy/start" =>
    match String.fromUTF8? request.body.toByteArray with
    | some text => h.startRequested text
    | none => (.unreadable .invalidUtf8, h)
  | "POST", "/api/proxy/stop" =>
    let (status, h) := h.stop
    (.stopped status, h)
  | "GET", "/api/proxy/status" => (.status h.status, h)
  | _, _ => (.notFound, h)

/-- The line by which a request is logged. -/
def requestLine (request : HttpRequest) : LogLine :=
  ⟨.debug, "Control request", [("method", .text request.method), ("url", .text request.path)]⟩

/-- A request to the control interface, which is logged before anything is done. -/
def control (h : Host) (request : HttpRequest) : ControlReply × Host :=
  (h.say (requestLine request)).handle request

/-- The control interface as a web server. -/
def respond (h : Host) (request : HttpRequest) : HttpResponse × Host :=
  let (reply, h) := h.control request
  (reply.response.sent request.method, h)

/-- Binds a control server; gives the address it occupies. -/
def serveControl (h : Host) (address : String) : Except RelayError (SocketAddress × Host) :=
  match h.network.bind address with
  | .error cause => .error (.control address cause.message)
  | .ok (a, network) =>
    .ok (a, { h with network }.say ⟨.info, "Control API listening", [("addr", .text address)]⟩)

/-- Binds the metrics server, unless it is bound already. That it cannot be bound is only logged. -/
def serveMetrics (h : Host) (address : String) : Host :=
  match h.metricsServer with
  | some _ => h
  | none =>
    match h.network.bind address with
    | .error cause =>
      h.say
        ⟨.error, "Failed to start metrics server on " ++ address ++ ": " ++ cause.message, []⟩
    | .ok (a, network) =>
      { h with network, metricsServer := some a }.say
        ⟨.info, "Metrics server listening on http://" ++ address ++ "/metrics", []⟩

end Host

end ModbusRelay
