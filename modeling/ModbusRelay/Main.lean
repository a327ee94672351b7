import ModbusRelay.Machine
import ModbusRelay.Program

/-!
The command. It reads its options, runs the program and prints what there is to print; every
decision is made in `Program.execute`.

The command has no sockets: it runs on the network of a machine that is on its own, so a start
succeeds only if there is nobody to connect to.
-/

namespace ModbusRelay

/-- A machine without neighbours, on which nobody listens yet. -/
def Network.alone (uptime : Nat) : Network where
  system := Machine.system { isLocal := IpAddress.isLoopback, uptime }

/-- Prints the help text or the log, one line each. -/
def Program.Execution.print (e : Execution) (asJson : Bool) : IO Unit := do
  if let some text := e.output then IO.print text
  for line in e.log do
    IO.println (if asJson then line.json else line.plain)

end ModbusRelay

open ModbusRelay in
/-- Runs the command; the result is its exit code. -/
def main (args : List String) : IO UInt32 := do
  let options := Options.parse ("modbus-proxy" :: args)
  let nanoseconds ← IO.monoNanosNow
  let execution := Program.execute options (Network.alone (nanoseconds / 1000000000)) []
  execution.print options.jsonLogs
  return execution.exitCode.toUInt32
