import ReplicaQuorum.Command
import ReplicaQuorum.Command.Arguments
import ReplicaQuorum.Command.Response
import ReplicaQuorum.Config
import ReplicaQuorum.Counters
import ReplicaQuorum.Encoding
import ReplicaQuorum.Endpoint
import ReplicaQuorum.Error
import ReplicaQuorum.FileContents
import ReplicaQuorum.Form
import ReplicaQuorum.Form.Classify
import ReplicaQuorum.Form.Policy
import ReplicaQuorum.Form.Rule
import ReplicaQuorum.Form.Verdict
import ReplicaQuorum.IdMap
import ReplicaQuorum.IdSet
import ReplicaQuorum.Instant
import ReplicaQuorum.Journal.Logged
import ReplicaQuorum.Journal.Notice
import ReplicaQuorum.Journal.Severity
import ReplicaQuorum.Json
import ReplicaQuorum.Json.Decode
import ReplicaQuorum.Json.Escape
import ReplicaQuorum.Json.Read
import ReplicaQuorum.Main
import ReplicaQuorum.Proofs.Content.Grammar
import ReplicaQuorum.Proofs.Content.RoundTrip
import ReplicaQuorum.Proofs.Form.Arrival
import ReplicaQuorum.Proofs.Form.Classify
import ReplicaQuorum.Proofs.Form.Failover
import ReplicaQuorum.Proofs.Form.Monotone
import ReplicaQuorum.Proofs.Form.Read
import ReplicaQuorum.Proofs.Form.Resend
import ReplicaQuorum.Proofs.Form.Trim
import ReplicaQuorum.Proofs.Form.Writable
import ReplicaQuorum.Proofs.IdSet.Size
import ReplicaQuorum.Proofs.Instant
import ReplicaQuorum.Proofs.Journal.Line
import ReplicaQuorum.Proofs.Json.Extension
import ReplicaQuorum.Proofs.Json.ReadBack
import ReplicaQuorum.Proofs.Liveness.Absorb
import ReplicaQuorum.Proofs.Liveness.Convergence
import ReplicaQuorum.Proofs.Liveness.Degrade
import ReplicaQuorum.Proofs.Liveness.Exchange
import ReplicaQuorum.Proofs.Liveness.Race
import ReplicaQuorum.Proofs.Liveness.Record
import ReplicaQuorum.Proofs.Liveness.Stranger
import ReplicaQuorum.Proofs.Quorum
import ReplicaQuorum.Proofs.Quorum.Count
import ReplicaQuorum.Proofs.Registry.Admission
import ReplicaQuorum.Proofs.Registry.Call
import ReplicaQuorum.Proofs.Registry.Delivery
import ReplicaQuorum.Proofs.Registry.Failure
import ReplicaQuorum.Proofs.Registry.Isolation
import ReplicaQuorum.Proofs.Registry.Latest
import ReplicaQuorum.Proofs.Registry.Recovery
import ReplicaQuorum.Proofs.Registry.Succession
import ReplicaQuorum.Proofs.Registry.Tally
import ReplicaQuorum.Proofs.ReplicaSet.Compare
import ReplicaQuorum.Proofs.Roster.Moves
import ReplicaQuorum.Proofs.Roster.WellFormed
import ReplicaQuorum.Proofs.Round.Attendance
import ReplicaQuorum.Proofs.Store.Append
import ReplicaQuorum.Proofs.Store.Burst
import ReplicaQuorum.Proofs.Store.Line
import ReplicaQuorum.Proofs.Store.Memory
import ReplicaQuorum.Proofs.Store.Reading
import ReplicaQuorum.Proofs.Text.Numeral
import ReplicaQuorum.Proofs.Transition.Account
import ReplicaQuorum.Proofs.Transition.Adoption
import ReplicaQuorum.Proofs.Transition.Bypass
import ReplicaQuorum.Proofs.Transition.Change
import ReplicaQuorum.Proofs.Transition.Conserve
import ReplicaQuorum.Proofs.Transition.Raise
import ReplicaQuorum.Proofs.Transition.Room
import ReplicaQuorum.Proofs.Transition.Run
import ReplicaQuorum.Proofs.Transition.Shed
import ReplicaQuorum.Proofs.Transition.Switch
import ReplicaQuorum.Proofs.Transition.TempPrimary
import ReplicaQuorum.Proofs.Transition.Trace
import ReplicaQuorum.Proofs.Version
import ReplicaQuorum.Quorum
import ReplicaQuorum.Registry
import ReplicaQuorum.ReplicaSet
import ReplicaQuorum.ReplicaSet.Admission
import ReplicaQuorum.ReplicaSet.Broadcast
import ReplicaQuorum.ReplicaSet.Compare
import ReplicaQuorum.ReplicaSet.Content
import ReplicaQuorum.ReplicaSet.Describe
import ReplicaQuorum.ReplicaSet.Liveness
import ReplicaQuorum.ReplicaSet.Roster
import ReplicaQuorum.ReplicaSet.Transition
import ReplicaQuorum.ReplicaSet.Violation
import ReplicaQuorum.RequestId
import ReplicaQuorum.Round
import ReplicaQuorum.Round.Participant
import ReplicaQuorum.Spelling
import ReplicaQuorum.Status
import ReplicaQuorum.Store.Checksum
import ReplicaQuorum.Store.Error
import ReplicaQuorum.Store.LogFile
import ReplicaQuorum.Store.Record
import ReplicaQuorum.Store.Sink
import ReplicaQuorum.Text.Blank
import ReplicaQuorum.Text.Hex
import ReplicaQuorum.Text.Lines
import ReplicaQuorum.Text.Numeral
import ReplicaQuorum.Text.Pieces
import ReplicaQuorum.Text.Printable
import ReplicaQuorum.Text.Quoted
import ReplicaQuorum.Version
import ReplicaQuorum.VolumeType
import ReplicaQuorum.Word
