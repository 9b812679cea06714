import ChainBroker.Command.Log
import ChainBroker.Main
import ChainBroker.Proofs.Dialogue
import ChainBroker.Proofs.Bind
import ChainBroker.Proofs.Port
import ChainBroker.Proofs.Setup
import ChainBroker.Proofs.Sorting
import ChainBroker.Proofs.Table
import ChainBroker.Proofs.Deployment
import ChainBroker.Proofs.Download
import ChainBroker.Proofs.Docker
import ChainBroker.Proofs.Kubernetes
import ChainBroker.Proofs.Loader
import ChainBroker.Proofs.LoadedCatalog
import ChainBroker.Proofs.PortAgreement
import ChainBroker.Proofs.PrimaryPort
import ChainBroker.Proofs.World
import ChainBroker.Proofs.Interleaving
import ChainBroker.Proofs.DockerDaemon
import ChainBroker.Proofs.KubernetesCluster
import ChainBroker.Proofs.Pairing
import ChainBroker.Proofs.Cleanup
import ChainBroker.Proofs.Contest
import ChainBroker.Proofs.CreateOnce
import ChainBroker.Proofs.Isolation
import ChainBroker.Proofs.Utf8
import ChainBroker.Proofs.JsonReading
import ChainBroker.Proofs.BindPayload
import ChainBroker.Proofs.Operations
import ChainBroker.Proofs.Rejection
import ChainBroker.Proofs.Percent
import ChainBroker.Proofs.Targets
import ChainBroker.Proofs.Addressing
import ChainBroker.Proofs.Credentials
import ChainBroker.Proofs.Offerings
import ChainBroker.Proofs.Directory
import ChainBroker.Proofs.SameDefinitions
import ChainBroker.Proofs.NamedFaults
import ChainBroker.Proofs.OfferingOrder
import ChainBroker.Proofs.PortTable
import ChainBroker.Proofs.NodePorts
import ChainBroker.Proofs.TomlDocument
import ChainBroker.Proofs.UndeclaredSettings
import ChainBroker.Proofs.ExposedPorts
import ChainBroker.Proofs.JsonSpelling
import ChainBroker.Proofs.ToolRequest
import ChainBroker.Proofs.ProvisionSteps
import ChainBroker.Proofs.ServicePorts
import ChainBroker.Proofs.ToolOutcome
import ChainBroker.Proofs.TemporaryFiles
import ChainBroker.Proofs.WholeDownload
import ChainBroker.Proofs.PortGrammar
import ChainBroker.Proofs.ImageReference
import ChainBroker.Proofs.ServiceName
import ChainBroker.Proofs.SettingsChecks
import ChainBroker.Proofs.Substitution
import ChainBroker.Proofs.ConcurrentDeployments
import ChainBroker.Proofs.MemberNames
import ChainBroker.Proofs.WrittenSettings
import ChainBroker.Proofs.Endpoints
