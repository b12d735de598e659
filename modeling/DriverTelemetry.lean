import DriverTelemetry.Config.Reader
import DriverTelemetry.Core
import DriverTelemetry.Health.DebugText
import DriverTelemetry.Platform.Hosted
import DriverTelemetry.Proofs.EventLog
import DriverTelemetry.Proofs.LiveAllocations
import DriverTelemetry.Proofs.MetricHistory
import DriverTelemetry.Proofs.Recovery
import DriverTelemetry.SharedInstance
import DriverTelemetry.Proofs.MetricUpdates
import DriverTelemetry.Proofs.HealthCalls
import DriverTelemetry.Proofs.ReservedMemory
import DriverTelemetry.Proofs.GradualRecovery
import DriverTelemetry.Proofs.TransitionEvents
import DriverTelemetry.Proofs.TransitionHistory
import DriverTelemetry.Proofs.Restarts
import DriverTelemetry.Proofs.Configuration
import DriverTelemetry.Proofs.ConcurrentConfiguration
import DriverTelemetry.Proofs.ConcurrentRecovery
import DriverTelemetry.Proofs.LifetimeAccounts
import DriverTelemetry.Proofs.AnomalyLaw
import DriverTelemetry.Proofs.VerdictQueue
import DriverTelemetry.Proofs.LeakReports
import DriverTelemetry.Proofs.MetricIdentity
import DriverTelemetry.Proofs.ProducerOrder
import DriverTelemetry.Proofs.ConfigurationText
import DriverTelemetry.Proofs.TrackedMemory
import DriverTelemetry.Proofs.AddressReuse
import DriverTelemetry.Proofs.SharedLifecycle
import DriverTelemetry.Proofs.AfterShutdown
import DriverTelemetry.Proofs.ConcurrentShutdown
import DriverTelemetry.Proofs.ReportLines
import DriverTelemetry.Proofs.RecoveryCounts
import DriverTelemetry.Proofs.ConfigurationLayout
import DriverTelemetry.Proofs.NameLookup
import DriverTelemetry.Proofs.ReportLayout
import DriverTelemetry.Proofs.SampleSummaries
import DriverTelemetry.Proofs.RateWindows
import DriverTelemetry.Proofs.BenchmarkSummary
import DriverTelemetry.Proofs.DashboardTotals
import DriverTelemetry.Proofs.ErrorRecording
import DriverTelemetry.Proofs.StoppedTimers
import DriverTelemetry.Proofs.MemoryBudget
import DriverTelemetry.Proofs.DashboardRanking
