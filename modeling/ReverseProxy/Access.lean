import ReverseProxy.Document
import ReverseProxy.Config.Schema
import ReverseProxy.Http.Message
import ReverseProxy.Net.Address
import ReverseProxy.Routing.Decision

set_option autoImplicit false

namespace ReverseProxy.Access

structure Record where
  requestId : Nat
  client : Net.SocketAddress
  server : Net.SocketAddress
  method : String
  host : String
  uri : String
  status : Http.Status
  startMs : Nat
  elapsedMs : Nat
  backendElapsedMs : Nat
  action : Routing.Action
  routeId : String
  userId : Option String
  sessionId : Option String
  tlsProtocol : Option String
  tlsCipher : Option String
  fromCache : Bool
deriving DecidableEq, Repr, Inhabited

def optionalText : Option String → Document
  | some s => .text s
  | none => .null

def Record.fields (r : Record) : List (String × Document) :=
  [("request_id", .int r.requestId), ("client_addr", .text r.client.text),
    ("local_addr", .text r.server.text), ("method", .text r.method), ("host", .text r.host),
    ("uri", .text r.uri), ("status", .int r.status), ("start_ms", .int r.startMs),
    ("elapsed_ms", .int r.elapsedMs), ("backend_elapsed_ms", .int r.backendElapsedMs),
    ("action", .text r.action.id), ("route_id", .text r.routeId),
    ("user_id", optionalText r.userId), ("session_id", optionalText r.sessionId),
    ("tls_protocol", optionalText r.tlsProtocol), ("tls_cipher", optionalText r.tlsCipher),
    ("from_cache", .bool r.fromCache)]

def escaped (c : Char) : String :=
  if c = '"' then "\\\""
  else if c = '\\' then "\\\\"
  else if c = '\n' then "\\n"
  else if c = '\r' then "\\r"
  else if c = '\t' then "\\t"
  else if c = '\x08' then "\\b"
  else if c = '\x0c' then "\\f"
  else if c.toNat < 0x20 then
    "\\u00" ++ String.ofList (if c.toNat < 16 then ['0'] else []) ++
      String.ofList (Nat.toDigits 16 c.toNat)
  else c.toString

def jsonText (s : String) : String := "\"" ++ String.join (s.toList.map escaped) ++ "\""

def scalarJson : Document → String
  | .text s => jsonText s
  | .int n => Text.ofInt n
  | .bool b => if b then "true" else "false"
  | _ => "null"

def Record.json (r : Record) : String :=
  "\x7b" ++ Text.join "," (r.fields.map fun (name, value) => jsonText name ++ ":" ++
    scalarJson value) ++ "\x7d"

structure Event where
  fields : List (String × Document)

def Event.level : String := "INFO"

def Event.target : String := "access"

def shown (s : Option String) : Document := .text (s.getD "-")

def Record.eventFields (r : Record) : List (String × Document) :=
  [("request_id", .int r.requestId), ("client", .text r.client.text),
    ("local", .text r.server.text), ("method", .text r.method), ("host", .text r.host),
    ("uri", .text r.uri), ("status", .int r.status), ("start_ms", .int r.startMs),
    ("elapsed_ms", .int r.elapsedMs), ("backend_ms", .int r.backendElapsedMs),
    ("action", .text r.action.id), ("route", .text r.routeId), ("user", shown r.userId),
    ("session", shown r.sessionId), ("tls", shown r.tlsProtocol), ("cipher", shown r.tlsCipher),
    ("cached", .bool r.fromCache)]

def event (format : Config.AccessLogFormat) (r : Record) : Event :=
  match format with
  | .fields => ⟨r.eventFields⟩
  | .json => ⟨[("message", .text r.json)]⟩

end ReverseProxy.Access
