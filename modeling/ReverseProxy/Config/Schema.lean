set_option autoImplicit false

namespace ReverseProxy.Config

structure Listener where
  bindAddress : String := "0.0.0.0:8080"
  maxConnections : UInt64 := 10000
deriving DecidableEq, Repr, Inhabited

inductive LogFormat where
  | compact
  | pretty
deriving DecidableEq, Repr, Inhabited

inductive AccessLogFormat where
  | fields
  | json
deriving DecidableEq, Repr, Inhabited

structure Observability where
  logLevel : String := "info"
  logFormat : LogFormat := .compact
  metricsEnabled : Bool := true
  metricsAddress : String := "0.0.0.0:9090"
  accessLogEnabled : Bool := true
  accessLogFormat : AccessLogFormat := .fields
deriving DecidableEq, Repr, Inhabited

structure Forwarding where
  stuckTimeoutMs : UInt64 := 30000
  markStuckUnreachable : Bool := false
  requestCompression : Bool := false
  responseCompression : Bool := false
  requestTimeoutSecs : UInt64 := 60
deriving DecidableEq, Repr, Inhabited

structure Cache where
  enabled : Bool := true
  maxSizeBytes : UInt64 := 268435456
  maxFileSizeBytes : UInt64 := 8388608
  /-- Whether a request over TLS must declare its response public to have it stored. -/
  disableSecureWithoutPublic : Bool := true
  defaultTtlSecs : UInt64 := 300
  sweepIntervalSecs : UInt64 := 30
deriving DecidableEq, Repr, Inhabited

structure KeepAlive where
  idleSecs : UInt64 := 60
  intervalSecs : UInt64 := 10
  count : UInt32 := 3
deriving DecidableEq, Repr, Inhabited

structure Pool where
  id : String := "default"
  /-- `*`, `*.example.com` or a host. -/
  domain : String := "*"
  maxConnectionsPerEndpoint : UInt64 := 128
  borrowTimeoutMs : UInt64 := 5000
  connectTimeoutMs : UInt64 := 5000
  idleTimeoutMs : UInt64 := 90000
  maxLifetimeMs : UInt64 := 600000
  disposeTimeoutMs : UInt64 := 30000
  keepAlive : KeepAlive := {}
  enabled : Bool := true
deriving DecidableEq, Repr, Inhabited

structure Routing where
  mapper : String := "routes"
  fixedGroup : Option String := none
deriving DecidableEq, Repr, Inhabited

inductive RouteAction where
  | proxy
  | proxyAndCache
  | static
  | redirect
  | notFound
  | internalError
deriving DecidableEq, Repr, Inhabited

def RouteAction.isProxy : RouteAction → Bool
  | .proxy => true
  | .proxyAndCache => true
  | _ => false

structure Redirect where
  location : Option String := none
  scheme : String := ""
  host : Option String := none
  port : Option UInt16 := none
  status : Option UInt16 := none
deriving DecidableEq, Repr, Inhabited

inductive HeaderOp where
  | set
  | add
  | remove
deriving DecidableEq, Repr, Inhabited

structure HeaderChange where
  op : HeaderOp
  name : String
  value : String := ""
deriving DecidableEq, Repr, Inhabited

structure Page where
  status : UInt16
  resource : String
deriving DecidableEq, Repr, Inhabited

structure Route where
  name : String
  host : Option String := none
  pathPrefix : Option String := none
  /-- The matching route of highest priority wins. -/
  priority : UInt32 := 0
  action : RouteAction := .proxy
  backendGroup : Option String := none
  resource : Option String := none
  redirect : Option Redirect := none
  headers : List HeaderChange := []
  notFoundPage : Option Page := none
  internalErrorPage : Option Page := none
deriving DecidableEq, Repr, Inhabited

structure Backend where
  name : String
  group : String
  address : String
deriving DecidableEq, Repr, Inhabited

structure Health where
  recoverySecs : UInt64 := 10
deriving DecidableEq, Repr, Inhabited

structure Pages where
  root : Option String := none
  notFound : Option Page := none
  internalError : Option Page := none
deriving DecidableEq, Repr, Inhabited

end ReverseProxy.Config

namespace ReverseProxy

structure Config where
  listener : Config.Listener := {}
  observability : Config.Observability := {}
  forwarding : Config.Forwarding := {}
  cache : Config.Cache := {}
  pools : List Config.Pool := []
  routing : Config.Routing := {}
  routes : List Config.Route := []
  backends : List Config.Backend := []
  health : Config.Health := {}
  pages : Config.Pages := {}
deriving DecidableEq, Repr, Inhabited

end ReverseProxy
