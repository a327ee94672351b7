import ModbusRelay.Main
import ModbusRelay.Metrics.Exposition
import ModbusRelay.Proofs.Frame.Decode
import ModbusRelay.Proofs.Pending.Insert
import ModbusRelay.Proofs.Queue.Wait
import ModbusRelay.Proofs.Relay.Turns
import ModbusRelay.Proofs.Relay.Step
import ModbusRelay.Proofs.Relay.Run
import ModbusRelay.Proofs.Relay.Output
import ModbusRelay.Proofs.Relay.Answer
import ModbusRelay.Proofs.Relay.Mailbox
import ModbusRelay.Proofs.Relay.Outstanding
import ModbusRelay.Proofs.Relay.Displaced
import ModbusRelay.Proofs.Relay.Work
import ModbusRelay.Proofs.Metrics.LeftOut
import ModbusRelay.Proofs.Relay.Alongside
import ModbusRelay.Proofs.Frame.Cut
import ModbusRelay.Proofs.Relay.Unread
import ModbusRelay.Proofs.Relay.Unsent
import ModbusRelay.Proofs.Relay.Missing
import ModbusRelay.Proofs.Relay.Refused
import ModbusRelay.Proofs.Frame.Calls
import ModbusRelay.Proofs.Relay.Entry
import ModbusRelay.Proofs.Relay.Held
import ModbusRelay.Proofs.Relay.Besides
import ModbusRelay.Proofs.Relay.Isolated
import ModbusRelay.Proofs.Pending.History
import ModbusRelay.Proofs.Queue.Poll
import ModbusRelay.Proofs.Metrics.Counters
import ModbusRelay.Proofs.Relay.Account
import ModbusRelay.Proofs.Relay.Settle
import ModbusRelay.Proofs.Relay.Requests
import ModbusRelay.Proofs.Pending.Entries
import ModbusRelay.Proofs.Relay.Departures
import ModbusRelay.Proofs.Queue.Order
import ModbusRelay.Proofs.Relay.Sessions
import ModbusRelay.Proofs.Relay.Shutdown
import ModbusRelay.Proofs.Metrics.Gauges
import ModbusRelay.Proofs.Relay.Rest
import ModbusRelay.Proofs.Relay.Ended
import ModbusRelay.Proofs.Host.Lifecycle
import ModbusRelay.Proofs.Pending.Refusal
import ModbusRelay.Proofs.CommandLine.Unusable
import ModbusRelay.Proofs.Relay.Lost
import ModbusRelay.Proofs.Host.Ending
import ModbusRelay.Proofs.Pending.Spared
import ModbusRelay.Proofs.Pending.Policies
import ModbusRelay.Proofs.Relay.Unwritten
import ModbusRelay.Proofs.Relay.Intake
import ModbusRelay.Proofs.Relay.Delivered
import ModbusRelay.Proofs.Metrics.Rejections
import ModbusRelay.Proofs.Host.Dropped
import ModbusRelay.Proofs.Host.Fine
import ModbusRelay.Proofs.Host.Unchanged
import ModbusRelay.Proofs.CommandLine.Independent
import ModbusRelay.Proofs.Frame.Grammar
import ModbusRelay.Proofs.Frame.Consumed
import ModbusRelay.Proofs.Host.Overlap
import ModbusRelay.Proofs.Address.HostPort
