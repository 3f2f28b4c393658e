import ReverseProxy.Net.Address
import ReverseProxy.Pool.Policy
import ReverseProxy.Routing.Mapper
import ReverseProxy.Url.Parse

set_option autoImplicit false

namespace ReverseProxy.Config

inductive Problem where
  | notSocketAddress (text : String)
  | notPositive
  | requestTimeoutTooShort (outerMs innerMs : Nat)
  | fileLargerThanCache (file total : Nat)
  | empty
  | duplicatePool (id : String)
  | severalDefaultPools
  | duplicateBackend (name : String)
  | badAddress (cause : Endpoint.Error)
  | unknownMapper (name : String)
  | fixedGroupMissing
  | unknownGroup (name : String)
  | duplicateRoute (name : String)
  | groupMissing
  | resourceMissing
  | notAbsolute (location : String) (cause : Url.Error)
  | badScheme (scheme : String)
  | badRedirectStatus (status : Nat)
  | badHeader
  | badPageStatus (status : Nat)
deriving DecidableEq, Repr

def Problem.message : Problem → String
  | .notSocketAddress text => "'" ++ text ++ "' is not a socket address"
  | .notPositive => "must be > 0"
  | .requestTimeoutTooShort outer inner =>
    Text.ofNat outer ++ "ms must exceed the largest pool borrow timeout plus " ++
      "forwarding.stuck_timeout_ms (" ++ Text.ofNat inner ++ "ms)"
  | .fileLargerThanCache file total =>
    Text.ofNat file ++ " exceeds cache.max_size_bytes (" ++ Text.ofNat total ++ ")"
  | .empty => "must not be empty"
  | .duplicatePool id => "duplicate pool id '" ++ id ++ "'"
  | .severalDefaultPools => "more than one '*' pool"
  | .duplicateBackend name => "duplicate backend '" ++ name ++ "'"
  | .badAddress cause => cause.message
  | .unknownMapper name =>
    "unknown mapper '" ++ name ++ "' (known: " ++ Text.join ", " Routing.Mapper.names ++ ")"
  | .fixedGroupMissing => "required by the fixed mapper"
  | .unknownGroup name => "unknown backend group '" ++ name ++ "'"
  | .duplicateRoute name => "duplicate route '" ++ name ++ "'"
  | .groupMissing => "required for proxy actions"
  | .resourceMissing => "required for static routes"
  | .notAbsolute location cause =>
    "'" ++ location ++ "' is not an absolute URL: " ++ cause.message
  | .badScheme scheme => "'" ++ scheme ++ "' is not http or https"
  | .badRedirectStatus status => Text.ofNat status ++ " is not a redirect status"
  | .badHeader => "invalid header name or value"
  | .badPageStatus status => Text.ofNat status ++ " is not an HTTP status"

structure Finding where
  field : String
  problem : Problem
deriving DecidableEq, Repr

def Finding.text (f : Finding) : String := f.field ++ ": " ++ f.problem.message

def when (bad : Bool) (field : String) (problem : Problem) : List Finding :=
  if bad then [⟨field, problem⟩] else []

def isSocketAddress (s : String) : Bool := (Net.SocketAddress.parse? s).isSome

def listenerFindings (c : Config) : List Finding :=
  let l := c.listener
  let o := c.observability
  when (!isSocketAddress l.bindAddress) "listener.bind_address" (.notSocketAddress l.bindAddress) ++
  when (l.maxConnections == 0) "listener.max_connections" .notPositive ++
  when (o.metricsEnabled && !isSocketAddress o.metricsAddress) "observability.metrics_address"
    (.notSocketAddress o.metricsAddress)

/-- Addition and multiplication that stop at the largest 64-bit number. -/
def saturated (n : Nat) : Nat := min n (1 <<< 64 - 1)

/-- The longest that forwarding itself may wait before it answers. -/
def innerTimeoutMs (c : Config) : Nat :=
  let borrow := (c.effectivePools.map (·.borrowTimeoutMs.toNat)).foldl max 0
  saturated (borrow + c.forwarding.stuckTimeoutMs.toNat)

def outerTimeoutMs (c : Config) : Nat := saturated (c.forwarding.requestTimeoutSecs.toNat * 1000)

def forwardingFindings (c : Config) : List Finding :=
  when (c.forwarding.stuckTimeoutMs == 0) "forwarding.stuck_timeout_ms" .notPositive ++
  if c.forwarding.requestTimeoutSecs == 0 then
    [⟨"forwarding.request_timeout_secs", .notPositive⟩]
  else
    when (outerTimeoutMs c ≤ innerTimeoutMs c) "forwarding.request_timeout_secs"
      (.requestTimeoutTooShort (outerTimeoutMs c) (innerTimeoutMs c))

def cacheFindings (c : Cache) : List Finding :=
  when (c.maxSizeBytes < c.maxFileSizeBytes) "cache.max_file_size_bytes"
    (.fileLargerThanCache c.maxFileSizeBytes.toNat c.maxSizeBytes.toNat) ++
  when (c.defaultTtlSecs == 0) "cache.default_ttl_secs" .notPositive ++
  when (c.sweepIntervalSecs == 0) "cache.sweep_interval_secs" .notPositive

def elementField (section_ : String) (i : Nat) (field : String) : String :=
  section_ ++ "[" ++ Text.ofNat i ++ "]." ++ field

def poolFindings (earlier : List Pool) (i : Nat) (p : Pool) : List Finding :=
  let field := elementField "pools" i
  (if Text.isBlank p.id then [⟨field "id", .empty⟩]
    else when (earlier.any (·.id == p.id)) (field "id") (.duplicatePool p.id)) ++
  when (Text.isBlank p.domain) (field "domain") .empty ++
  when (p.maxConnectionsPerEndpoint == 0) (field "max_connections_per_endpoint") .notPositive ++
  [("borrow_timeout_ms", p.borrowTimeoutMs), ("connect_timeout_ms", p.connectTimeoutMs),
    ("idle_timeout_ms", p.idleTimeoutMs), ("max_lifetime_ms", p.maxLifetimeMs),
    ("dispose_timeout_ms", p.disposeTimeoutMs), ("keep_alive.idle_secs", p.keepAlive.idleSecs),
    ("keep_alive.interval_secs", p.keepAlive.intervalSecs)].flatMap fun (name, value) =>
      when (value == 0) (field name) .notPositive

/-- Findings about each element, which may compare it with those before it. -/
def eachWithEarlier {α : Type} (check : List α → Nat → α → List Finding) (l : List α) :
    List Finding :=
  (l.zipIdx.map fun (a, i) => check (l.take i) i a).flatten

def poolsFindings (ps : List Pool) : List Finding :=
  eachWithEarlier poolFindings ps ++
  when (1 < (ps.filter Pool.isDefault).length) "pools" .severalDefaultPools

def backendFindings (earlier : List Backend) (i : Nat) (b : Backend) : List Finding :=
  when (earlier.any (·.name == b.name)) (elementField "backends" i "name")
    (.duplicateBackend b.name) ++
  match Endpoint.parse b.address with
  | .ok _ => []
  | .error cause => [⟨elementField "backends" i "address", .badAddress cause⟩]

def groupNames (c : Config) : List String :=
  (c.backends.filter fun b => (Endpoint.parse b.address).toOption.isSome).map (·.group)

def routingFindings (c : Config) : List Finding :=
  when (!Routing.Mapper.names.contains c.routing.mapper) "routing.mapper"
    (.unknownMapper c.routing.mapper) ++
  if c.routing.mapper = "fixed" then
    match c.routing.fixedGroup with
    | none => [⟨"routing.fixed_group", .fixedGroupMissing⟩]
    | some g => when (!c.groupNames.contains g) "routing.fixed_group" (.unknownGroup g)
  else []

/-- No scheme at all stands for `http`. -/
def isRedirectScheme (s : String) : Bool :=
  Text.isBlank s || Text.equalsIgnoringCase (Text.trim s) "http" ||
    Text.equalsIgnoringCase (Text.trim s) "https"

def redirectFindings (field : String) (r : Redirect) : List Finding :=
  (match r.location with
    | some l =>
      match Url.check l with
      | .ok _ => []
      | .error cause => [⟨field ++ ".location", .notAbsolute l cause⟩]
    | none => []) ++
  when (!isRedirectScheme r.scheme) (field ++ ".scheme") (.badScheme (Text.trim r.scheme)) ++
  match r.status with
  | some s => when (s < 300 || 400 ≤ s) (field ++ ".status") (.badRedirectStatus s.toNat)
  | none => []

def pageFindings (field : String) : Option Page → List Finding
  | some p =>
    when (p.status < 100 || 600 ≤ p.status) (field ++ ".status") (.badPageStatus p.status.toNat) ++
    when (Text.isBlank p.resource) (field ++ ".resource") .empty
  | none => []

def routeFindings (groups : List String) (earlier : List Route) (i : Nat) (r : Route) :
    List Finding :=
  let field := elementField "routes" i
  when (earlier.any (·.name == r.name)) (field "name") (.duplicateRoute r.name) ++
  (match r.backendGroup with
    | some g => when (!groups.contains g) (field "backend_group") (.unknownGroup g)
    | none => when r.action.isProxy (field "backend_group") .groupMissing) ++
  when (r.action == .static && r.resource.isNone) (field "resource") .resourceMissing ++
  (match r.redirect with
    | some t => redirectFindings (field "redirect") t
    | none => []) ++
  when (Routing.compileMutations? r.headers).isNone (field "headers") .badHeader ++
  pageFindings (field "not_found_page") r.notFoundPage ++
  pageFindings (field "internal_error_page") r.internalErrorPage

def findings (c : Config) : List Finding :=
  listenerFindings c ++ forwardingFindings c ++ cacheFindings c.cache ++ poolsFindings c.pools ++
  eachWithEarlier backendFindings c.backends ++ routingFindings c ++
  eachWithEarlier (routeFindings c.groupNames) c.routes ++
  pageFindings "pages.not_found" c.pages.notFound ++
  pageFindings "pages.internal_error" c.pages.internalError

def Valid (c : Config) : Prop := c.findings = []

instance (c : Config) : Decidable c.Valid := inferInstanceAs (Decidable (_ = _))

def findingsText (fs : List Finding) : String := Text.join ", " (fs.map Finding.text)

end ReverseProxy.Config
