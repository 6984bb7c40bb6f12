import ConsulApiGateway.Pointwise
import ConsulApiGateway.GoMap
import ConsulApiGateway.Run
import ConsulApiGateway.Newest
import ConsulApiGateway.GoStd
import ConsulApiGateway.StableSort
import ConsulApiGateway.BlockOrder
import ConsulApiGateway.PrefixCode
import ConsulApiGateway.Json
import ConsulApiGateway.Core
import ConsulApiGateway.GatewayApi
import ConsulApiGateway.Hostnames
import ConsulApiGateway.Status
import ConsulApiGateway.Objects
import ConsulApiGateway.StatusConditions
import ConsulApiGateway.GatewayStatusUpdate
import ConsulApiGateway.RouteStatusUpdate
import ConsulApiGateway.Binder
import ConsulApiGateway.Store
import ConsulApiGateway.Bindings
import ConsulApiGateway.BindStatuses
import ConsulApiGateway.ForeignParents
import ConsulApiGateway.ParentStatuses
import ConsulApiGateway.GatewayDeletion
import ConsulApiGateway.ServedHostnames
import ConsulApiGateway.Validator
import ConsulApiGateway.Manager
import ConsulApiGateway.RouteValidator
import ConsulApiGateway.RouteAccounting
import ConsulApiGateway.RouteCodec
import ConsulApiGateway.RouteManager
import ConsulApiGateway.NewestStored
import ConsulApiGateway.SecretManager
import ConsulApiGateway.WatchRegistry
import ConsulApiGateway.WatchReferences
import ConsulApiGateway.SecretCache
import ConsulApiGateway.Url
import ConsulApiGateway.UrlText
import ConsulApiGateway.SecretClients
import ConsulApiGateway.SecretNames
import ConsulApiGateway.CachedSecrets
import ConsulApiGateway.Handler
import ConsulApiGateway.SpiffePaths
import ConsulApiGateway.Streams
import ConsulApiGateway.ConfigEntries
import ConsulApiGateway.DiscoveryChain
import ConsulApiGateway.HeaderModifiers
import ConsulApiGateway.FirstMatch
import ConsulApiGateway.RouterRules
import ConsulApiGateway.ChainClosure
import ConsulApiGateway.SplitRounding
import ConsulApiGateway.ChainEntries
import ConsulApiGateway.WeightedServices
import ConsulApiGateway.TlsExposure
import ConsulApiGateway.BoundRoutes
import ConsulApiGateway.OrderIndependence
import ConsulApiGateway.ListenerPorts
import ConsulApiGateway.SyncAdapter
import ConsulApiGateway.SyncRuns
import ConsulApiGateway.LiveServices
import ConsulApiGateway.LiveSplitters
import ConsulApiGateway.Intentions
import ConsulApiGateway.IntentionReferences
import ConsulApiGateway.IntentionUpdates
import ConsulApiGateway.BackendResolver
import ConsulApiGateway.RouteRules
import ConsulApiGateway.Tombstones
import ConsulApiGateway.IntentionStore
import ConsulApiGateway.IntentionSync
import ConsulApiGateway.IntentionRaces
import ConsulApiGateway.Revocation
import ConsulApiGateway.ReconcileLoop
import ConsulApiGateway.CertManager
import ConsulApiGateway.ClassCache
import ConsulApiGateway.Cluster
import ConsulApiGateway.ConfigSnapshot
import ConsulApiGateway.Deployer
import ConsulApiGateway.ExecArgs
import ConsulApiGateway.GatewayConfiguration
import ConsulApiGateway.GatewayController
import ConsulApiGateway.GatewayStart
import ConsulApiGateway.LateGateways
