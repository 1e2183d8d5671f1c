import Coordination.Directory.Codec
import Coordination.Main
import Coordination.Performance.Sequential
import Coordination.Score.Codec
import Coordination.Score.Database
import Coordination.Proofs.Bus.Replay
import Coordination.Proofs.Bus.Isolation
import Coordination.Proofs.Bus.Cancellation
import Coordination.Proofs.Bus.Completion
import Coordination.Proofs.Bus.Polling
import Coordination.Proofs.Event.RoundTrip
import Coordination.Proofs.Event.Canonical
import Coordination.Proofs.Service.Events
import Coordination.Proofs.Directory.Operations
import Coordination.Proofs.Directory.Ledger
import Coordination.Proofs.Service.Effects
import Coordination.Proofs.Service.Restriction
import Coordination.Proofs.Service.Deployments
import Coordination.Proofs.Score.Leaderboard
import Coordination.Proofs.Performance.Failures
import Coordination.Proofs.Bus.Accounting
import Coordination.Proofs.Score.CountAgreement
import Coordination.Proofs.Json.RoundTrip
import Coordination.Proofs.Score.LargeCounts
import Coordination.Proofs.Bus.Latency
import Coordination.Proofs.Bus.Pipe
import Coordination.Proofs.Text.WellFormed
import Coordination.Proofs.Text.Order
import Coordination.Proofs.Bus.Decision
import Coordination.Proofs.Bus.Registration
import Coordination.Proofs.Event.Grammar
import Coordination.Proofs.Service.Decoding
import Coordination.Proofs.Table
import Coordination.Proofs.Score.History
import Coordination.Proofs.Score.Movement
import Coordination.Proofs.Score.RowDecoding
import Coordination.Proofs.Performance.Concurrency
import Coordination.Proofs.Performance.FullCombo
import Coordination.Proofs.Directory.Rooms
import Coordination.Proofs.Service.Membership
import Coordination.Proofs.Service.Freshness
import Coordination.Proofs.Performance.Exchanges
import Coordination.Proofs.Decimal.Interval
import Coordination.Proofs.Decimal.Nearest
import Coordination.Proofs.Decimal.Bits
import Coordination.Proofs.Decimal.Reading
import Coordination.Proofs.Performance.Wire
import Coordination.Proofs.Service.Commutation
import Coordination.Proofs.Announcement
import Coordination.Proofs.Score.Acronyms
import Coordination.Proofs.Settings.Parts
import Coordination.Service.Watch
import Coordination.Proofs.Service.Snapshots
import Coordination.Proofs.Service.Monitoring
import Coordination.Proofs.Service.MonitoredRuns
import Coordination.Proofs.Service.Health
