import Workflow.Engine
import Workflow.Proofs.Deliveries
import Workflow.Proofs.Mediation
import Workflow.Proofs.Suspension.LastWriter
import Workflow.Proofs.Suspension.Schedule
import Workflow.Record.Changes
import Workflow.Record.Query
import Workflow.Record.Request
import Workflow.Proofs.Suspension.Refusal
import Workflow.Proofs.Writes
import Workflow.Proofs.Ids
import Workflow.Proofs.Uniformity
import Workflow.Proofs.Correlation.AllOrNothing
import Workflow.Proofs.Cycles
import Workflow.Proofs.Authorization.Visibility
import Workflow.Proofs.Draining
import Workflow.Proofs.Agreement
import Workflow.Proofs.Correlation.Suspended
import Workflow.Proofs.Correlation.Permitted
import Workflow.Proofs.Suspension.Permitted
import Workflow.Proofs.Permanence
import Workflow.Proofs.Suspension.AuditTrail
import Workflow.Proofs.Authorization.Rule
import Workflow.Proofs.Correlation.Completeness
import Workflow.Proofs.Authorization.Bypass
import Workflow.Proofs.Suspension.Versions
import Workflow.Proofs.Authorization.Monotone
import Workflow.Proofs.Authorization.Requirement
import Workflow.Proofs.Authorization.Administration
import Workflow.Proofs.Correlation.OneAndAll
import Workflow.Proofs.Suspension.Selection
import Workflow.Proofs.TaskTrail
