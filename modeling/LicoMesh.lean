import LicoMesh.WorkQueue.Capacity
import LicoMesh.WorkQueue.LeaseFence
import LicoMesh.WorkQueue.Receipts
import LicoMesh.WorkQueue.RecoveredItems
import LicoMesh.WorkQueue.Idempotency
import LicoMesh.WorkQueue.ServiceCycle
import LicoMesh.ProcessIdentity.OwnerBindings
import LicoMesh.ProcessIdentity.Rotation
import LicoMesh.ProcessIdentity.NonceReplay
import LicoMesh.CapabilityKernel.MemoryStore
import LicoMesh.CapabilityKernel.Revocation
import LicoMesh.ServiceManifest.Snapshot
import LicoMesh.ProtectedSink.Claims
import LicoMesh.BackupRetention.Crashes
import LicoMesh.RestoreTransaction.Crashes
import LicoMesh.OutboundEgress.Redirects
import LicoMesh.EffectCommands.Runs
import LicoMesh.StorageLocks.Exclusion
import LicoMesh.PluginLifecycle.LeaseExclusion
import LicoMesh.CoreChangeSets.WireBounds
import LicoMesh.PluginLifecycle.PackageAgreement
import LicoMesh.StateCoordinator.Serialization
import LicoMesh.UploadCustody.Acknowledged
import LicoMesh.UpstreamGateway.TrafficRuns
import LicoMesh.ProtocolEvents.Delivery
import LicoMesh.UpstreamCatalog.Runs
import LicoMesh.GatewayRuntime.Recovery
import LicoMesh.ApiKeys.Lifecycle
import LicoMesh.ConsoleAuth.DeferredRules
import LicoMesh.PendingOperations.Runs
import LicoMesh.ToolGrants.LifecycleResults
import LicoMesh.Contracts.CanonicalJson
import LicoMesh.PrivateFileLock.Exclusion
import LicoMesh.MemoryLocks.Deadlines
import LicoMesh.MemoryLocks.Runs
import LicoMesh.SqliteLocks.Exclusion
import LicoMesh.ClientAddress.Attribution
import LicoMesh.SqliteLane.ExecutionLane
import LicoMesh.PushDispatcher.Dispatch
import LicoMesh.Governance.Approvals
