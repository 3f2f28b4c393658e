import ReverseProxy.Config.Schema
import ReverseProxy.Document

set_option autoImplicit false

/-!
# Reading a configuration from a document

A record is read from a table, or from a list that gives its fields in order. Fields that are not
known are ignored; a value of a wrong type or out of its field's range makes the whole
configuration unreadable.
-/
namespace ReverseProxy.Config

/-- The text format a document was written in; two of the rules below differ between them. -/
inductive Format where
  | json
  | toml
deriving DecidableEq, Repr

inductive Fields where
  | named (fields : List (String × Document))
  | ordered (items : List Document)

/-- JSON refuses more items than there are fields, TOML ignores them. -/
def Fields.of? (format : Format) (count : Nat) : Document → Option Fields
  | .table fields => some (.named fields)
  | .moment => some (.named [])
  | .list items =>
    if format = .json ∧ count < items.length then none else some (.ordered items)
  | _ => none

/-- The field at place `i`, called `name`. `absent` and `short` stand for a field that a table or
a list leaves out. -/
def Fields.get? {α : Type} (fields : Fields) (i : Nat) (name : String)
    (read : Document → Option α) (absent short : Option α) : Option α :=
  match fields with
  | .named fs =>
    match fs.find? (·.1 == name) with
    | some (_, d) => read d
    | none => absent
  | .ordered items =>
    match items[i]? with
    | some d => read d
    | none => short

def Fields.withDefault? {α : Type} (fields : Fields) (i : Nat) (name : String)
    (read : Document → Option α) (fallback : α) : Option α :=
  fields.get? i name read (some fallback) (some fallback)

def Fields.required? {α : Type} (fields : Fields) (i : Nat) (name : String)
    (read : Document → Option α) : Option α :=
  fields.get? i name read none none

def Fields.orNone? {α : Type} (fields : Fields) (i : Nat) (name : String)
    (read : Document → Option (Option α)) : Option (Option α) :=
  fields.get? i name read (some none) none

def natBelow? (bound : Nat) : Document → Option Nat
  | .int n => if 0 ≤ n ∧ n < bound then some n.toNat else none
  | _ => none

def u64? (d : Document) : Option UInt64 := (natBelow? UInt64.size d).map Nat.toUInt64
def u32? (d : Document) : Option UInt32 := (natBelow? UInt32.size d).map Nat.toUInt32
def u16? (d : Document) : Option UInt16 := (natBelow? UInt16.size d).map Nat.toUInt16

def bool? : Document → Option Bool
  | .bool b => some b
  | _ => none

def text? : Document → Option String
  | .text s => some s
  | _ => none

def optional? {α : Type} (read : Document → Option α) : Document → Option (Option α)
  | .null => some none
  | d => (read d).map some

def list? {α : Type} (read : Document → Option α) : Document → Option (List α)
  | .list items => items.mapM read
  | _ => none

def isUnit (format : Format) : Document → Bool
  | .null => format = .json
  | .list [] => format = .toml
  | .table [] => format = .toml
  | _ => false

def choice? {α : Type} (format : Format) (names : List (String × α)) : Document → Option α
  | .text s => (names.find? (·.1 == s)).map Prod.snd
  | .table [(s, d)] =>
    if isUnit format d then (names.find? (·.1 == s)).map Prod.snd else none
  | _ => none

def listener? (format : Format) (d : Document) : Option Listener := do
  let f ← Fields.of? format 2 d
  let z : Listener := {}
  some {
    bindAddress := ← f.withDefault? 0 "bind_address" text? z.bindAddress
    maxConnections := ← f.withDefault? 1 "max_connections" u64? z.maxConnections }

def logFormats : List (String × LogFormat) := [("compact", .compact), ("pretty", .pretty)]

def accessLogFormats : List (String × AccessLogFormat) := [("fields", .fields), ("json", .json)]

def observability? (format : Format) (d : Document) : Option Observability := do
  let f ← Fields.of? format 6 d
  let z : Observability := {}
  some {
    logLevel := ← f.withDefault? 0 "log_level" text? z.logLevel
    logFormat := ← f.withDefault? 1 "log_format" (choice? format logFormats) z.logFormat
    metricsEnabled := ← f.withDefault? 2 "metrics_enabled" bool? z.metricsEnabled
    metricsAddress := ← f.withDefault? 3 "metrics_address" text? z.metricsAddress
    accessLogEnabled := ← f.withDefault? 4 "access_log_enabled" bool? z.accessLogEnabled
    accessLogFormat :=
      ← f.withDefault? 5 "access_log_format" (choice? format accessLogFormats) z.accessLogFormat }

def forwarding? (format : Format) (d : Document) : Option Forwarding := do
  let f ← Fields.of? format 5 d
  let z : Forwarding := {}
  some {
    stuckTimeoutMs := ← f.withDefault? 0 "stuck_timeout_ms" u64? z.stuckTimeoutMs
    markStuckUnreachable :=
      ← f.withDefault? 1 "mark_stuck_unreachable" bool? z.markStuckUnreachable
    requestCompression := ← f.withDefault? 2 "request_compression" bool? z.requestCompression
    responseCompression := ← f.withDefault? 3 "response_compression" bool? z.responseCompression
    requestTimeoutSecs := ← f.withDefault? 4 "request_timeout_secs" u64? z.requestTimeoutSecs }

def cache? (format : Format) (d : Document) : Option Cache := do
  let f ← Fields.of? format 6 d
  let z : Cache := {}
  some {
    enabled := ← f.withDefault? 0 "enabled" bool? z.enabled
    maxSizeBytes := ← f.withDefault? 1 "max_size_bytes" u64? z.maxSizeBytes
    maxFileSizeBytes := ← f.withDefault? 2 "max_file_size_bytes" u64? z.maxFileSizeBytes
    disableSecureWithoutPublic :=
      ← f.withDefault? 3 "disable_secure_without_public" bool? z.disableSecureWithoutPublic
    defaultTtlSecs := ← f.withDefault? 4 "default_ttl_secs" u64? z.defaultTtlSecs
    sweepIntervalSecs := ← f.withDefault? 5 "sweep_interval_secs" u64? z.sweepIntervalSecs }

def keepAlive? (format : Format) (d : Document) : Option KeepAlive := do
  let f ← Fields.of? format 3 d
  let z : KeepAlive := {}
  some {
    idleSecs := ← f.withDefault? 0 "idle_secs" u64? z.idleSecs
    intervalSecs := ← f.withDefault? 1 "interval_secs" u64? z.intervalSecs
    count := ← f.withDefault? 2 "count" u32? z.count }

def pool? (format : Format) (d : Document) : Option Pool := do
  let f ← Fields.of? format 10 d
  let z : Pool := {}
  some {
    id := ← f.withDefault? 0 "id" text? z.id
    domain := ← f.withDefault? 1 "domain" text? z.domain
    maxConnectionsPerEndpoint :=
      ← f.withDefault? 2 "max_connections_per_endpoint" u64? z.maxConnectionsPerEndpoint
    borrowTimeoutMs := ← f.withDefault? 3 "borrow_timeout_ms" u64? z.borrowTimeoutMs
    connectTimeoutMs := ← f.withDefault? 4 "connect_timeout_ms" u64? z.connectTimeoutMs
    idleTimeoutMs := ← f.withDefault? 5 "idle_timeout_ms" u64? z.idleTimeoutMs
    maxLifetimeMs := ← f.withDefault? 6 "max_lifetime_ms" u64? z.maxLifetimeMs
    disposeTimeoutMs := ← f.withDefault? 7 "dispose_timeout_ms" u64? z.disposeTimeoutMs
    keepAlive := ← f.withDefault? 8 "keep_alive" (keepAlive? format) z.keepAlive
    enabled := ← f.withDefault? 9 "enabled" bool? z.enabled }

def routing? (format : Format) (d : Document) : Option Routing := do
  let f ← Fields.of? format 2 d
  let z : Routing := {}
  some {
    mapper := ← f.withDefault? 0 "mapper" text? z.mapper
    fixedGroup := ← f.withDefault? 1 "fixed_group" (optional? text?) z.fixedGroup }

def routeActions : List (String × RouteAction) :=
  [("proxy", .proxy), ("proxy_and_cache", .proxyAndCache), ("static", .static),
    ("redirect", .redirect), ("not_found", .notFound), ("internal_error", .internalError)]

def redirect? (format : Format) (d : Document) : Option Redirect := do
  let f ← Fields.of? format 5 d
  some {
    location := ← f.withDefault? 0 "location" (optional? text?) none
    scheme := ← f.withDefault? 1 "scheme" text? ""
    host := ← f.withDefault? 2 "host" (optional? text?) none
    port := ← f.withDefault? 3 "port" (optional? u16?) none
    status := ← f.withDefault? 4 "status" (optional? u16?) none }

def headerOps : List (String × HeaderOp) := [("set", .set), ("add", .add), ("remove", .remove)]

def headerChange? (format : Format) (d : Document) : Option HeaderChange := do
  let f ← Fields.of? format 3 d
  some {
    op := ← f.required? 0 "op" (choice? format headerOps)
    name := ← f.required? 1 "name" text?
    value := ← f.withDefault? 2 "value" text? "" }

def page? (format : Format) (d : Document) : Option Page := do
  let f ← Fields.of? format 2 d
  some {
    status := ← f.required? 0 "status" u16?
    resource := ← f.required? 1 "resource" text? }

def route? (format : Format) (d : Document) : Option Route := do
  let f ← Fields.of? format 11 d
  some {
    name := ← f.required? 0 "name" text?
    host := ← f.orNone? 1 "host" (optional? text?)
    pathPrefix := ← f.orNone? 2 "path_prefix" (optional? text?)
    priority := ← f.withDefault? 3 "priority" u32? 0
    action := ← f.withDefault? 4 "action" (choice? format routeActions) .proxy
    backendGroup := ← f.orNone? 5 "backend_group" (optional? text?)
    resource := ← f.orNone? 6 "resource" (optional? text?)
    redirect := ← f.orNone? 7 "redirect" (optional? (redirect? format))
    headers := ← f.withDefault? 8 "headers" (list? (headerChange? format)) []
    notFoundPage := ← f.orNone? 9 "not_found_page" (optional? (page? format))
    internalErrorPage := ← f.orNone? 10 "internal_error_page" (optional? (page? format)) }

def backend? (format : Format) (d : Document) : Option Backend := do
  let f ← Fields.of? format 3 d
  some {
    name := ← f.required? 0 "name" text?
    group := ← f.required? 1 "group" text?
    address := ← f.required? 2 "address" text? }

def health? (format : Format) (d : Document) : Option Health := do
  let f ← Fields.of? format 1 d
  some { recoverySecs := ← f.withDefault? 0 "recovery_secs" u64? (Health.mk 10).recoverySecs }

def pages? (format : Format) (d : Document) : Option Pages := do
  let f ← Fields.of? format 3 d
  some {
    root := ← f.withDefault? 0 "root" (optional? text?) none
    notFound := ← f.withDefault? 1 "not_found" (optional? (page? format)) none
    internalError := ← f.withDefault? 2 "internal_error" (optional? (page? format)) none }

end ReverseProxy.Config

namespace ReverseProxy
open Config

def Config.ofDocument? (format : Format) (d : Document) : Option Config := do
  let f ← Fields.of? format 10 d
  some {
    listener := ← f.withDefault? 0 "listener" (listener? format) {}
    observability := ← f.withDefault? 1 "observability" (observability? format) {}
    forwarding := ← f.withDefault? 2 "forwarding" (forwarding? format) {}
    cache := ← f.withDefault? 3 "cache" (cache? format) {}
    pools := ← f.withDefault? 4 "pools" (list? (pool? format)) []
    routing := ← f.withDefault? 5 "routing" (routing? format) {}
    routes := ← f.withDefault? 6 "routes" (list? (route? format)) []
    backends := ← f.withDefault? 7 "backends" (list? (backend? format)) []
    health := ← f.withDefault? 8 "health" (health? format) {}
    pages := ← f.withDefault? 9 "pages" (pages? format) {} }

end ReverseProxy
