import ReverseProxy.Config.Encode
import ReverseProxy.Main
import ReverseProxy.Gate
import ReverseProxy.Cache.Maintenance
import ReverseProxy.Shutdown
import ReverseProxy.Proofs.Cache.Balance
import ReverseProxy.Proofs.Cache.Session
import ReverseProxy.Proofs.Cache.Accounting
import ReverseProxy.Proofs.Cache.History
import ReverseProxy.Proofs.Cache.Isolation
import ReverseProxy.Proofs.Forward.Stream
import ReverseProxy.Proofs.Forward.Truncation
import ReverseProxy.Proofs.Proxy.Leases
import ReverseProxy.Proofs.Proxy.Stored
import ReverseProxy.Proofs.Routing.Validated
import ReverseProxy.Proofs.Pool.Series
import ReverseProxy.Proofs.Pool.Lifecycle
import ReverseProxy.Proofs.Server.Series
import ReverseProxy.Proofs.Proxy.Reloads
import ReverseProxy.Proofs.Server.Timeouts
import ReverseProxy.Proofs.Server.Atomicity
import ReverseProxy.Proofs.Server.Limits
import ReverseProxy.Proofs.Cache.Dates
import ReverseProxy.Proofs.Cache.Admission
import ReverseProxy.Proofs.Proxy.Moves
import ReverseProxy.Proofs.Proxy.Signals
import ReverseProxy.Proofs.Routing.Targets
import ReverseProxy.Proofs.Proxy.Recovery
import ReverseProxy.Proofs.Cache.Replay
import ReverseProxy.Proofs.Proxy.Origins
import ReverseProxy.Proofs.Proxy.Caching
import ReverseProxy.Proofs.Proxy.Replays
import ReverseProxy.Proofs.Cache.Refusals
import ReverseProxy.Proofs.Routing.Hosts
import ReverseProxy.Proofs.Proxy.Bare
import ReverseProxy.Proofs.Server.Ids
import ReverseProxy.Proofs.Health
import ReverseProxy.Proofs.Cache.Sweeping
import ReverseProxy.Proofs.Cache.Steps
import ReverseProxy.Proofs.Cache.Removals
import ReverseProxy.Proofs.Cache.Budget
import ReverseProxy.Proofs.Cache.Protocol
import ReverseProxy.Proofs.Routing.Rotation
import ReverseProxy.Proofs.Server.ErrorPages
import ReverseProxy.Proofs.Forward.Backends
import ReverseProxy.Proofs.Server.Redirects
import ReverseProxy.Proofs.Proxy.Handover
import ReverseProxy.Proofs.Calendar
import ReverseProxy.Proofs.Http.RoundTrip
import ReverseProxy.Proofs.Cache.Conditional
import ReverseProxy.Proofs.Cache.Respelling
import ReverseProxy.Proofs.Proxy.Dates
import ReverseProxy.Proofs.Proxy.Marks
import ReverseProxy.Proofs.Request.Paths
import ReverseProxy.Proofs.Request.KeepAlive
import ReverseProxy.Proofs.Proxy.Answers
import ReverseProxy.Proofs.Proxy.KeepAlive
import ReverseProxy.Proofs.Gate.Admission
import ReverseProxy.Proofs.Proxy.Disclosure
