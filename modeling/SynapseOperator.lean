import SynapseOperator.Api
import SynapseOperator.Document
import SynapseOperator.AppService
import SynapseOperator.Strconv
import SynapseOperator.Base64
import SynapseOperator.Database
import SynapseOperator.ConfigMutation
import SynapseOperator.Bridges
import SynapseOperator.Naming
import SynapseOperator.Status
import SynapseOperator.StatusPatch
import SynapseOperator.Cluster
import SynapseOperator.SynapseReconciler
import SynapseOperator.SynapseConvergence
import SynapseOperator.SynapseRuns
import SynapseOperator.MautrixSignalReconciler
import SynapseOperator.MautrixSignalConvergence
import SynapseOperator.MautrixSignalRuns
import SynapseOperator.SkippedPatches
import SynapseOperator.SynapseOutput
import SynapseOperator.MautrixSignalOutput
import SynapseOperator.Controllers
