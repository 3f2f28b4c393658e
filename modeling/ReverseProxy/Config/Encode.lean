import ReverseProxy.Config.Decode

set_option autoImplicit false

namespace ReverseProxy.Config

def nat (n : Nat) : Document := .int n

def optionalText : Option String → Document
  | some s => .text s
  | none => .null

def optionally {α : Type} (write : α → Document) : Option α → Document
  | some a => write a
  | none => .null

def nameIn {α : Type} [DecidableEq α] (names : List (String × α)) (a : α) : Document :=
  match names.find? (·.2 = a) with
  | some (s, _) => .text s
  | none => .null

def Listener.document (l : Listener) : Document :=
  .table [("bind_address", .text l.bindAddress), ("max_connections", nat l.maxConnections.toNat)]

def Observability.document (o : Observability) : Document :=
  .table [("log_level", .text o.logLevel), ("log_format", nameIn logFormats o.logFormat),
    ("metrics_enabled", .bool o.metricsEnabled), ("metrics_address", .text o.metricsAddress),
    ("access_log_enabled", .bool o.accessLogEnabled),
    ("access_log_format", nameIn accessLogFormats o.accessLogFormat)]

def Forwarding.document (f : Forwarding) : Document :=
  .table [("stuck_timeout_ms", nat f.stuckTimeoutMs.toNat),
    ("mark_stuck_unreachable", .bool f.markStuckUnreachable),
    ("request_compression", .bool f.requestCompression),
    ("response_compression", .bool f.responseCompression),
    ("request_timeout_secs", nat f.requestTimeoutSecs.toNat)]

def Cache.document (c : Cache) : Document :=
  .table [("enabled", .bool c.enabled), ("max_size_bytes", nat c.maxSizeBytes.toNat),
    ("max_file_size_bytes", nat c.maxFileSizeBytes.toNat),
    ("disable_secure_without_public", .bool c.disableSecureWithoutPublic),
    ("default_ttl_secs", nat c.defaultTtlSecs.toNat),
    ("sweep_interval_secs", nat c.sweepIntervalSecs.toNat)]

def KeepAlive.document (k : KeepAlive) : Document :=
  .table [("idle_secs", nat k.idleSecs.toNat), ("interval_secs", nat k.intervalSecs.toNat),
    ("count", nat k.count.toNat)]

def Pool.document (p : Pool) : Document :=
  .table [("id", .text p.id), ("domain", .text p.domain),
    ("max_connections_per_endpoint", nat p.maxConnectionsPerEndpoint.toNat),
    ("borrow_timeout_ms", nat p.borrowTimeoutMs.toNat),
    ("connect_timeout_ms", nat p.connectTimeoutMs.toNat),
    ("idle_timeout_ms", nat p.idleTimeoutMs.toNat),
    ("max_lifetime_ms", nat p.maxLifetimeMs.toNat),
    ("dispose_timeout_ms", nat p.disposeTimeoutMs.toNat),
    ("keep_alive", p.keepAlive.document), ("enabled", .bool p.enabled)]

def Routing.document (r : Routing) : Document :=
  .table [("mapper", .text r.mapper), ("fixed_group", optionalText r.fixedGroup)]

def Redirect.document (r : Redirect) : Document :=
  .table [("location", optionalText r.location), ("scheme", .text r.scheme),
    ("host", optionalText r.host), ("port", optionally (nat ·.toNat) r.port),
    ("status", optionally (nat ·.toNat) r.status)]

def HeaderChange.document (h : HeaderChange) : Document :=
  .table [("op", nameIn headerOps h.op), ("name", .text h.name), ("value", .text h.value)]

def Page.document (p : Page) : Document :=
  .table [("status", nat p.status.toNat), ("resource", .text p.resource)]

def Route.document (r : Route) : Document :=
  .table [("name", .text r.name), ("host", optionalText r.host),
    ("path_prefix", optionalText r.pathPrefix), ("priority", nat r.priority.toNat),
    ("action", nameIn routeActions r.action), ("backend_group", optionalText r.backendGroup),
    ("resource", optionalText r.resource), ("redirect", optionally Redirect.document r.redirect),
    ("headers", .list (r.headers.map HeaderChange.document)),
    ("not_found_page", optionally Page.document r.notFoundPage),
    ("internal_error_page", optionally Page.document r.internalErrorPage)]

def Backend.document (b : Backend) : Document :=
  .table [("name", .text b.name), ("group", .text b.group), ("address", .text b.address)]

def Pages.document (p : Pages) : Document :=
  .table [("root", optionalText p.root), ("not_found", optionally Page.document p.notFound),
    ("internal_error", optionally Page.document p.internalError)]

end ReverseProxy.Config

namespace ReverseProxy

def Config.document (c : Config) : Document :=
  .table [("listener", c.listener.document), ("observability", c.observability.document),
    ("forwarding", c.forwarding.document), ("cache", c.cache.document),
    ("pools", .list (c.pools.map Config.Pool.document)), ("routing", c.routing.document),
    ("routes", .list (c.routes.map Config.Route.document)),
    ("backends", .list (c.backends.map Config.Backend.document)),
    ("health", .table [("recovery_secs", Config.nat c.health.recoverySecs.toNat)]),
    ("pages", c.pages.document)]

end ReverseProxy
