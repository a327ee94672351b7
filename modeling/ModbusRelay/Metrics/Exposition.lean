import ModbusRelay.Http
import ModbusRelay.Metrics.Basic

/-!
The metrics in the text format that monitoring systems scrape, and the pages of the metrics server.

A family is written as a line of help, a line with its kind, and a line for each sample. Families
come in the order of their names, the samples of a family in the order of their labels.
-/

namespace ModbusRelay

/-- One number of a family; the label tells the numbers of a family apart. -/
structure MetricSample where
  label : Option (String × String)
  value : Int

/-- The kinds of metrics. -/
inductive MetricKind where
  | counter
  | gauge

/-- The kind as it is written. -/
def MetricKind.text : MetricKind → String
  | .counter => "counter"
  | .gauge => "gauge"

/-- A metric with all its numbers. -/
structure MetricFamily where
  name : String
  help : String
  kind : MetricKind
  samples : List MetricSample

namespace MetricFamily

/-- A counter with one number. -/
def counter (name help : String) (value : Nat) : MetricFamily :=
  ⟨name, help, .counter, [⟨none, value⟩]⟩

/-- A gauge with one number. -/
def gauge (name help : String) (value : Int) : MetricFamily :=
  ⟨name, help, .gauge, [⟨none, value⟩]⟩

/-- The line of one number. -/
def sampleText (name : String) (s : MetricSample) : String :=
  match s.label with
  | none => name ++ " " ++ toString s.value ++ "\n"
  | some (key, label) =>
    name ++ "\x7b" ++ key ++ "=\"" ++ label ++ "\"\x7d " ++ toString s.value ++ "\n"

/-- All lines of a family. -/
def text (f : MetricFamily) : String :=
  "# HELP " ++ f.name ++ " " ++ f.help ++ "\n"
    ++ "# TYPE " ++ f.name ++ " " ++ f.kind.text ++ "\n"
    ++ String.join (f.samples.map (sampleText f.name))

end MetricFamily

namespace Metrics

/-- All families, in the order of their names. -/
def families (m : Metrics) : List MetricFamily :=
  [ .counter "modbus_proxy_client_errors_total"
      "Client sessions closed due to I/O or framing errors" m.clientErrors,
    .gauge "modbus_proxy_clients_connected" "Currently connected client sessions"
      m.clientsConnected,
    .counter "modbus_proxy_downstream_errors_total" "Downstream connection read or write failures"
      m.downstreamErrors,
    .counter "modbus_proxy_duplicate_rejections_total"
      "Requests dropped because their transaction id was already pending" m.duplicateRejections,
    .gauge "modbus_proxy_pending_requests" "Transactions awaiting a downstream response" m.pending,
    .counter "modbus_proxy_requests_forwarded_total" "Requests written to the downstream device"
      m.forwarded,
    ⟨"modbus_proxy_requests_queued_total", "Requests accepted from clients by priority class",
      .counter,
      [⟨some ("priority", Priority.high.label), m.queuedHigh⟩,
        ⟨some ("priority", Priority.normal.label), m.queuedNormal⟩]⟩,
    .counter "modbus_proxy_responses_routed_total"
      "Downstream responses delivered to the requesting client" m.routed,
    .counter "modbus_proxy_routing_misses_total"
      "Downstream responses dropped for lack of a pending transaction" m.misses,
    .gauge "modbus_proxy_running" "Proxy instance status (1=running, 0=stopped)" m.running ]

/-- The text of all families. -/
def exposition (m : Metrics) : String := String.join (m.families.map MetricFamily.text)

/-- A relay counts as ready while the running gauge is up. -/
def ready (m : Metrics) : Bool := 0 < m.running

/-- The page of the metrics server at a path. -/
def page (m : Metrics) : String → HttpResponse
  | "/metrics" => ⟨200, "text/plain; version=0.0.4", m.exposition⟩
  | "/health" => .plain 200 "OK"
  | "/ready" => if m.ready then .plain 200 "Ready" else .plain 503 "Not Ready"
  | _ => .plain 404 "Not Found"

end Metrics

end ModbusRelay
