import JobProgress.Config.Load
import JobProgress.Proofs.Advancing
import JobProgress.Proofs.Budget
import JobProgress.Proofs.Cancellation
import JobProgress.Proofs.DoneCount
import JobProgress.Proofs.Episodes
import JobProgress.Proofs.Exact.CarriedFraction
import JobProgress.Proofs.Exact.Conservation
import JobProgress.Proofs.Exact.HandedOut
import JobProgress.Proofs.Exact.Overrun
import JobProgress.Proofs.Exact.Proportion
import JobProgress.Proofs.FreshStart
import JobProgress.Proofs.JobBody
import JobProgress.Proofs.Locality
import JobProgress.Proofs.LocationText
import JobProgress.Proofs.Refusal
import JobProgress.Proofs.ReportedSum
import JobProgress.Proofs.RunLog
import JobProgress.Proofs.SentUnits
import JobProgress.Proofs.Separation
import JobProgress.Proofs.Settings
import JobProgress.Proofs.SharePolicy
import JobProgress.Proofs.SinkProtocol
import JobProgress.Proofs.StatusMirror
import JobProgress.Proofs.Unwinding
import JobProgress.Proofs.WorkLeft
import JobProgress.Proofs.Wrappers
import JobProgress.Proofs.WrittenLines
import JobProgress.Session
import JobProgress.Sink.Cancellable
import JobProgress.Sink.Host
import JobProgress.Sink.Polled
import JobProgress.Uri.Parse
import JobProgress.Warning.Host
