import Stopwatch.Script.Counters
import Stopwatch.Script.Snapshot
import Stopwatch.Script.Answers
import Stopwatch.Script.Faults
import Stopwatch.Hardware.Machine
import Stopwatch.Hardware.Ticking
import Stopwatch.Library.System
import Stopwatch.Library.Model
import Stopwatch.Benchmark.CustomName
import Stopwatch.Benchmark.Demo
import Stopwatch.Stage
import Stopwatch.Main
import Stopwatch.Proofs.Relation
import Stopwatch.Proofs.Watch
import Stopwatch.Proofs.Answers
import Stopwatch.Proofs.Telling
import Stopwatch.Proofs.Marking
import Stopwatch.Proofs.Writing
import Stopwatch.Proofs.Agreement
import Stopwatch.Proofs.Delta
import Stopwatch.Proofs.Sentinel
import Stopwatch.Proofs.Requests
import Stopwatch.Proofs.Nearest
import Stopwatch.Proofs.Shortest
import Stopwatch.Proofs.Numerals
import Stopwatch.Proofs.Json
import Stopwatch.Proofs.RoundTrip
import Stopwatch.Proofs.Along
import Stopwatch.Proofs.Reporting
import Stopwatch.Proofs.Completed
import Stopwatch.Proofs.Sending
import Stopwatch.Proofs.Delivery
import Stopwatch.Proofs.Markers
import Stopwatch.Proofs.Actions
import Stopwatch.Proofs.Unwinding
import Stopwatch.Proofs.Course
import Stopwatch.Proofs.Exact
import Stopwatch.Proofs.Layers
import Stopwatch.Proofs.Causes
import Stopwatch.Proofs.Bindings
import Stopwatch.Proofs.Misuse
import Stopwatch.Proofs.Native
import Stopwatch.Proofs.Contract
import Stopwatch.Proofs.Lifecycle
import Stopwatch.Proofs.Advance
import Stopwatch.Proofs.Interval
import Stopwatch.Proofs.Seconds
import Stopwatch.Proofs.Opening
import Stopwatch.Proofs.Pieces
import Stopwatch.Proofs.Transfers
import Stopwatch.Proofs.History
import Stopwatch.Proofs.Naming
import Stopwatch.Proofs.Attributes
import Stopwatch.Proofs.Consecutive
import Stopwatch.Proofs.Exhaustion
import Stopwatch.Proofs.Places
import Stopwatch.Proofs.Refusals
