import ReverseProxy.Config.Schema
import ReverseProxy.Duration
import ReverseProxy.Pool.Domain

set_option autoImplicit false

namespace ReverseProxy.Pool

structure Policy where
  id : String
  domain : Domain
  /-- Leases of one endpoint at a time, at least one. -/
  maxConnectionsPerEndpoint : Nat
  borrowTimeout : Duration
  connectTimeout : Duration
  idleTimeout : Duration
  maxLifetime : Duration
  disposeTimeout : Duration
  keepAlive : Config.KeepAlive
  enabled : Bool
deriving DecidableEq, Repr, Inhabited

def Policy.ofConfig (c : Config.Pool) : Policy where
  id := c.id
  domain := Domain.parse c.domain
  maxConnectionsPerEndpoint := max c.maxConnectionsPerEndpoint.toNat 1
  borrowTimeout := .ofMillis c.borrowTimeoutMs.toNat
  connectTimeout := .ofMillis c.connectTimeoutMs.toNat
  idleTimeout := .ofMillis c.idleTimeoutMs.toNat
  maxLifetime := .ofMillis c.maxLifetimeMs.toNat
  disposeTimeout := .ofMillis c.disposeTimeoutMs.toNat
  keepAlive := c.keepAlive
  enabled := c.enabled

def Policy.isDefault (p : Policy) : Bool := p.domain == .any

def Policy.serves (p : Policy) (host : String) : Bool := p.domain.serves host

def maxSlots : Nat := 1 <<< 61 - 1

def Policy.fits (p : Policy) : Bool := p.maxConnectionsPerEndpoint ≤ maxSlots

end ReverseProxy.Pool

namespace ReverseProxy.Config

def Pool.isDefault (c : Config.Pool) : Bool := Text.trim c.domain == ReverseProxy.Pool.anyDomain

end ReverseProxy.Config

namespace ReverseProxy

/-- The configured pools, with a default pool behind them if they have none. -/
def Config.effectivePools (c : Config) : List Config.Pool :=
  if c.pools.any Config.Pool.isDefault then c.pools else c.pools ++ [({} : Config.Pool)]

end ReverseProxy
