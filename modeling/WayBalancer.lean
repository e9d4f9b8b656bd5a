import WayBalancer.HttpForwarding
import WayBalancer.HttpTargetStable
import WayBalancer.RelayLines
import WayBalancer.FleetGating
import WayBalancer.UpstreamRecords
import WayBalancer.UpstreamEjection
import WayBalancer.UpstreamWeighted
import WayBalancer.RouteShares
import WayBalancer.LocalRateLimits
import WayBalancer.LocalConcurrency
import WayBalancer.FleetFailFast
import WayBalancer.FleetAutoRollback
import WayBalancer.DurableRoundTrip
import WayBalancer.DigestBinding
import WayBalancer.AdminReplay
import WayBalancer.DiscoveryAtomic
import WayBalancer.CacheVary
import WayBalancer.CacheBinding
import WayBalancer.SingleRequest
import WayBalancer.VersionNames
import WayBalancer.RolloutAudit
import WayBalancer.FleetReports
import WayBalancer.RelayPayload
import WayBalancer.UpstreamTopology
import WayBalancer.PeerDeliveries
import WayBalancer.ProxyLimits
import WayBalancer.UpstreamPools
import WayBalancer.HedgedRetries
import WayBalancer.ForwardingTrust
