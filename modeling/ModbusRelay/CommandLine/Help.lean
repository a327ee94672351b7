/-!
The help text of the program.
-/

namespace ModbusRelay

/-- The lines of the help text. -/
def helpLines : List String :=
  [
    "modbus-proxy - Priority-aware Modbus/TCP multiplexing proxy",
    "",
    "USAGE:",
    "    modbus-proxy [OPTIONS]",
    "",
    "OPTIONS:",
    "    --listen <ADDR>              Client-facing bind address [default: 0.0.0.0:5020]",
    "    --target <ADDR>              Modbus device to forward to; starts the proxy immediately",
    "    --control-addr <ADDR>        HTTP control API bind address [default: 0.0.0.0:8080]",
    "    --no-control                 Disable the HTTP control API",
    "    --metrics-addr <ADDR>        Enable Prometheus metrics server on address (e.g., 0.0.0.0:9090)",
    "    --json-logs                  Output logs in JSON format (for log aggregation)",
    "    --run-seconds <SECS>         Run for a fixed duration then exit",
    "    --connect-timeout-ms <MS>    Downstream connect timeout [default: 3000]",
    "    --request-timeout-ms <MS>    Age after which a pending request counts as orphaned [default: 5000]",
    "    --max-pending <N>            Maximum in-flight transactions [default: 1024]",
    "    --duplicate-policy <NAME>    Pending transaction id reuse (reject|replace) [default: reject]",
    "    -h, --help                   Print this help message",
    "",
    "ENVIRONMENT VARIABLES:",
    "    RUST_LOG                     Set log filter (e.g., RUST_LOG=debug,proxy_io=trace)",
    "",
    "CONTROL API:",
    "    POST /api/proxy/start        \x7b\"listen_host\", \"listen_port\", \"target_host\", \"target_port\"\x7d",
    "    POST /api/proxy/stop",
    "    GET  /api/proxy/status",
    "",
    "EXAMPLES:",
    "    # Forward local clients to a PLC, with metrics",
    "    modbus-proxy --target 192.168.1.10:502 --metrics-addr 0.0.0.0:9090",
    "",
    "    # Control API only; start the proxy later over HTTP",
    "    modbus-proxy --control-addr 127.0.0.1:8080" ]

/-- The help text as it is printed, with an empty line at the end. -/
def helpText : String := String.join (helpLines.map (· ++ "\n")) ++ "\n"

end ModbusRelay
