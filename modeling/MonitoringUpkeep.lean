import MonitoringUpkeep.Endpoint
import MonitoringUpkeep.Log.Call
import MonitoringUpkeep.Main
import MonitoringUpkeep.Proofs.Fields
import MonitoringUpkeep.Proofs.KeyPath
import MonitoringUpkeep.Proofs.PathFrame
import MonitoringUpkeep.Proofs.Drift
import MonitoringUpkeep.Proofs.PathLaws
import MonitoringUpkeep.Proofs.RepairLaws
import MonitoringUpkeep.Proofs.Store
import MonitoringUpkeep.Proofs.Effects
import MonitoringUpkeep.Proofs.Visit
import MonitoringUpkeep.Proofs.FailStop
import MonitoringUpkeep.Proofs.Pending
import MonitoringUpkeep.Proofs.Serving
import MonitoringUpkeep.Proofs.Convergence
import MonitoringUpkeep.Proofs.Repair
import MonitoringUpkeep.Proofs.History
import MonitoringUpkeep.Proofs.Confinement
import MonitoringUpkeep.Proofs.Laps
import MonitoringUpkeep.Proofs.Lifecycle
import MonitoringUpkeep.Proofs.Outage
import MonitoringUpkeep.Proofs.Reading
import MonitoringUpkeep.Proofs.References
import MonitoringUpkeep.Proofs.Survey
import MonitoringUpkeep.Proofs.EventIndependence
import MonitoringUpkeep.Proofs.StatusProjection
import MonitoringUpkeep.Proofs.Looks
import MonitoringUpkeep.Proofs.GateLooks
import MonitoringUpkeep.Proofs.GateProtocol
import MonitoringUpkeep.Proofs.Keeping
import MonitoringUpkeep.Proofs.GateKeeping
import MonitoringUpkeep.Proofs.GateStore
import MonitoringUpkeep.Proofs.StoreReads
import MonitoringUpkeep.Proofs.GateAgreement
import MonitoringUpkeep.Proofs.Versions
import MonitoringUpkeep.Proofs.OperatorFrame
import MonitoringUpkeep.Proofs.StoreCourse
import MonitoringUpkeep.Proofs.StoreSoundness
import MonitoringUpkeep.Proofs.PollOutcome
import MonitoringUpkeep.Proofs.ReferenceBags
import MonitoringUpkeep.Proofs.Repairable
import MonitoringUpkeep.Proofs.Amounts
import MonitoringUpkeep.Proofs.PollBound
import MonitoringUpkeep.Proofs.GateBound
import MonitoringUpkeep.Proofs.Pacing
import MonitoringUpkeep.Proofs.Glyphs
import MonitoringUpkeep.Proofs.Substitution
import MonitoringUpkeep.Proofs.Secrets
import MonitoringUpkeep.Proofs.NormalForm
import MonitoringUpkeep.Proofs.Seams
import MonitoringUpkeep.Proofs.Fronts
import MonitoringUpkeep.Proofs.Secrecy
import MonitoringUpkeep.Proofs.Classification
import MonitoringUpkeep.Proofs.JsonText
import MonitoringUpkeep.Proofs.LogLines
import MonitoringUpkeep.Proofs.Wiring
import MonitoringUpkeep.Proofs.Workloads
import MonitoringUpkeep.Proofs.Addressing
import MonitoringUpkeep.Proofs.IntegerText
import MonitoringUpkeep.Proofs.Nearest
import MonitoringUpkeep.Proofs.Acceptance
