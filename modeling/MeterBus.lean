import MeterBus.Frame.Cursor
import MeterBus.Main
import MeterBus.Metrics.Endpoint
import MeterBus.Proxy.Run
import MeterBus.Proofs.Codec.Finding
import MeterBus.Proofs.Codec.Memoryless
import MeterBus.Proofs.Codec.Taking
import MeterBus.Proofs.Frame.RoundTrip
import MeterBus.Proofs.Metrics.Tally
import MeterBus.Proofs.Proxy.Conservation
import MeterBus.Proofs.Proxy.Exchange
import MeterBus.Proofs.Proxy.History
import MeterBus.Proofs.Proxy.Passage
import MeterBus.Proofs.Proxy.Provenance
import MeterBus.Proofs.Proxy.Reached
import MeterBus.Proofs.Proxy.Replies
import MeterBus.Proofs.Proxy.Turn
import MeterBus.Proofs.Stream.Drain
import MeterBus.Proofs.Stream.Fragmentation
import MeterBus.Proofs.Stream.Intake
import MeterBus.Proofs.Stream.Ledger
import MeterBus.Proofs.Stream.Look
import MeterBus.Proofs.Stream.Poll
import MeterBus.Proofs.Stream.Strict
import MeterBus.Proofs.Stream.Validity
import MeterBus.Proofs.Proxy.Requests
import MeterBus.Proofs.Proxy.Upkeep
import MeterBus.Proofs.Proxy.Cancellation
import MeterBus.Proofs.Stream.Account
import MeterBus.Proofs.Stream.Exhaustion
import MeterBus.Proofs.Proxy.Inventory
import MeterBus.Proofs.Stream.Sending
import MeterBus.Proofs.Proxy.Output
import MeterBus.Proofs.Proxy.Transparency
import MeterBus.Proofs.Frame.Reading
import MeterBus.Proofs.Frame.Completion
import MeterBus.Proofs.Frame.Refusal
import MeterBus.Proofs.Codec.Transport
import MeterBus.Proofs.Stream.Capture
import MeterBus.Proofs.Text.Hex
import MeterBus.Proofs.Program.Watch
import MeterBus.Proofs.Frame.Deficit
import MeterBus.Proofs.Frame.Corruption
import MeterBus.Proofs.Codec.Session
import MeterBus.Proofs.Codec.Conservation
import MeterBus.Proofs.Codec.Refusal
import MeterBus.Proofs.Codec.Waiting
import MeterBus.Proofs.Codec.Gaps
import MeterBus.Proofs.Stream.Patience
import MeterBus.Proofs.Proxy.Deadline
import MeterBus.Proofs.Proxy.Rules
import MeterBus.Proofs.Proxy.Failure
import MeterBus.Proofs.Proxy.Closing
import MeterBus.Proofs.Proxy.Priority
import MeterBus.Proofs.Stream.Prospect
import MeterBus.Proofs.Proxy.Horizon
import MeterBus.Proofs.Proxy.Progress
import MeterBus.Proofs.Codec.Encoding
import MeterBus.Proofs.Frame.Readdressing
import MeterBus.Proofs.Settings.Demand
import MeterBus.Proofs.Settings.Routing
import MeterBus.Proofs.Log.Severity
import MeterBus.Proofs.Settings.Validation
import MeterBus.Proofs.Program.Configuration
import MeterBus.Proofs.Text.JsonString
import MeterBus.Proofs.Frame.Text
import MeterBus.Proofs.Log.Lines
import MeterBus.Proofs.Log.Frames
