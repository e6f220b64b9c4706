import EgressWatch.Main
import EgressWatch.Proofs.Text.Numerals
import EgressWatch.Proofs.Time.Calendar
import EgressWatch.Proofs.Time.Stamp
import EgressWatch.Proofs.Json.Quoted
import EgressWatch.Proofs.Json.Number
import EgressWatch.Proofs.Json.Skip
import EgressWatch.Proofs.Json.Record
import EgressWatch.Proofs.Snapshot.RoundTrip
import EgressWatch.Proofs.Store.Order
import EgressWatch.Proofs.Store.Answer
import EgressWatch.Proofs.Store.Log
import EgressWatch.Proofs.Store.Damage
import EgressWatch.Proofs.Time.Shift
import EgressWatch.Proofs.Store.Retention
import EgressWatch.Proofs.Command.History
import EgressWatch.Proofs.Net.Address
import EgressWatch.Proofs.Store.Pruning
import EgressWatch.Proofs.Api.Handler
import EgressWatch.Proofs.Api.Run
import EgressWatch.Proofs.Command.Containment
import EgressWatch.Proofs.Command.Effect
import EgressWatch.Proofs.Api.Accounting
import EgressWatch.Proofs.Probe.Download
import EgressWatch.Proofs.Monitor.Trial
import EgressWatch.Proofs.Monitor.Verdict
import EgressWatch.Proofs.Monitor.Coherence
import EgressWatch.Proofs.Time.Cutoff
import EgressWatch.Proofs.Command.Expiry
import EgressWatch.Proofs.Store.Listing
import EgressWatch.Proofs.Store.Numbering
import EgressWatch.Proofs.Store.Widening
import EgressWatch.Proofs.Probe.Calls
import EgressWatch.Proofs.Time.Window
import EgressWatch.Proofs.Probe.Independence
import EgressWatch.Proofs.Snapshot.Torn
import EgressWatch.Proofs.Command.Shown
import EgressWatch.Proofs.Time.StampBytes
import EgressWatch.Proofs.Config.Partial
