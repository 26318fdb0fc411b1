import InstallStatus.Controller.Lifecycle
import InstallStatus.Main
import InstallStatus.Proofs.Dependence
import InstallStatus.Proofs.ForeignWrites
import InstallStatus.Proofs.History
import InstallStatus.Proofs.NoLostUpdate
import InstallStatus.Proofs.Protocol
import InstallStatus.Proofs.Quiescence
import InstallStatus.Proofs.Retry
import InstallStatus.Proofs.RoundTrip
import InstallStatus.Proofs.SecondPass
import InstallStatus.Schema.Definition
import InstallStatus.Proofs.RetryDelays
import InstallStatus.Proofs.UnreadableAnswers
import InstallStatus.Proofs.DeepMerge
import InstallStatus.Proofs.OverlaidPatch
import InstallStatus.Proofs.UpsertRuns
import InstallStatus.Proofs.ChangeFilter
import InstallStatus.Proofs.LastingLink
import InstallStatus.Proofs.ResolvedSettings
import InstallStatus.Proofs.ToldChanges
import InstallStatus.Proofs.UpsertOrder
import InstallStatus.Proofs.TakenLists
import InstallStatus.Proofs.StoredKeys
