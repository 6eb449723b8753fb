import AeroComply.Services.InspectionRuns
import AeroComply.Services.EngineAgreement
import AeroComply.Services.ReceivingRace
import AeroComply.Services.WorkOrderGates
import AeroComply.Services.ApprovalRace
import AeroComply.Services.ReviewRequired
import AeroComply.Services.EvidenceLifecycle
import AeroComply.Import.Reconfiguration
import AeroComply.Core.RateLimit
import AeroComply.Import.CommitRace
import AeroComply.Services.CodeRace
import AeroComply.Services.SignalSync
import AeroComply.Services.SignalRequests
import AeroComply.Services.InspectionAgreement
import AeroComply.Services.OverdueAgreement
import AeroComply.Services.FleetTotals
import AeroComply.Services.MissionRuns
import AeroComply.Services.ObligationRuns
import AeroComply.Services.BatteryRuns
import AeroComply.Services.AgentGate
import AeroComply.Services.NewTenant
import AeroComply.Services.ProcurementRace
import AeroComply.Services.EvidenceStorage
import AeroComply.Services.AccessRuns
import AeroComply.Import.FailedRows
import AeroComply.Services.AogTechnicians
import AeroComply.Services.StorageKeys
import AeroComply.Services.EntityResolution
import AeroComply.Services.TenantScreens
import AeroComply.Import.ColumnGate
import AeroComply.Services.ReferenceResolution
import AeroComply.Services.ExplicitIdentifiers
import AeroComply.Services.ReleaseCompliance
import AeroComply.Services.AssetConfiguration
import AeroComply.Services.ReceiptFifo
import AeroComply.Services.VendorScores
import AeroComply.Services.DeferredItems
import AeroComply.Services.EvidenceReconciliation
import AeroComply.Services.Recommendation
import AeroComply.Frontend.Agreement
import AeroComply.Services.PlanBulk
import AeroComply.Services.OrderAtomicity
import AeroComply.Services.FinishedWork
import AeroComply.Services.QuarantineRuns
import AeroComply.Services.RequirementStatus
import AeroComply.Services.DueUnits
import AeroComply.Services.UsageBounds
import AeroComply.Services.DueAvailability
import AeroComply.Applicability.Evaluable
import AeroComply.Services.HistoryWindows
import AeroComply.Applicability.Lattice
import AeroComply.Services.EvidenceCounts
import AeroComply.Services.AogLifecycle
import AeroComply.Services.EntitlementOrder
import AeroComply.Services.DeletedRecords
import AeroComply.Services.AssessmentCoverage
import AeroComply.Services.SnapshotComparison
import AeroComply.Services.FindingLifecycle
import AeroComply.Services.ProviderMessages
