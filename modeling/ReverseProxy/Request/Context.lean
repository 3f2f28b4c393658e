import ReverseProxy.Access
import ReverseProxy.Forward.Failure
import ReverseProxy.Request.Path
import ReverseProxy.Routing.Condition

set_option autoImplicit false

namespace ReverseProxy.Request

structure Tls where
  protocol : String
  cipher : String
deriving DecidableEq, Repr, Inhabited

structure Connection where
  peer : Net.SocketAddress
  server : Net.SocketAddress
  tls : Option Tls := none
deriving DecidableEq, Repr, Inhabited

def Connection.isSecure (c : Connection) : Bool := c.tls.isSome

structure Head where
  method : String
  uri : Http.Uri
  version : Http.Version
  headers : Http.Headers
deriving DecidableEq, Repr, Inhabited

def Head.view (h : Head) (secure : Bool) : Routing.RequestView :=
  ⟨h.method, h.uri, h.headers, secure⟩

def Head.host (h : Head) : String := ((h.headers.text? "host").or h.uri.authority).getD ""

/-- Whether the first `Connection` header has a token. -/
def Head.hasConnectionToken (h : Head) (token : String) : Bool :=
  (Text.splitOn ',' ((h.headers.text? "connection").getD "")).any fun t =>
    Text.equalsIgnoringCase (Text.trim t) token

def Head.keepAlive (h : Head) : Bool :=
  match h.version with
  | .http09 => false
  | .http10 => h.hasConnectionToken "keep-alive"
  | _ => !h.hasConnectionToken "close"

structure Incoming where
  head : Head
  body : Bytes
deriving DecidableEq, Repr, Inhabited

/-- Times are milliseconds: `startMs` on the wall clock, the others on a clock that only runs
forward. -/
structure Context where
  id : Nat
  started : Nat
  startMs : Nat
  lastActivity : Nat
  backendStarted : Option Nat := none
  backendElapsed : Nat := 0
  connection : Connection
  head : Head
  decision : Routing.Decision
  status : Http.Status := 200
  fromCache : Bool := false
  headersSent : Bool := false
deriving DecidableEq, Repr

namespace Context

def start (id now wallMs : Nat) (connection : Connection) (head : Head)
    (decision : Routing.Decision) : Context :=
  { id, started := now, startMs := wallMs, lastActivity := now, connection, head, decision }

def path (c : Context) : String := normalizePath c.head.uri.path

def query (c : Context) : List (String × String) := (c.head.uri.query.map queryPairs).getD []

def isSecure (c : Context) : Bool := c.connection.isSecure

def touch (c : Context) (now : Nat) : Context := { c with lastActivity := now }

def idle (c : Context) (now : Nat) : Nat := now - c.lastActivity

def elapsed (c : Context) (now : Nat) : Nat := now - c.started

def backendStart (c : Context) (now : Nat) : Context :=
  { c with backendStarted := some now, lastActivity := now }

def backendDone (c : Context) (now : Nat) : Context :=
  match c.backendStarted with
  | some t => { c with backendStarted := none, backendElapsed := now - t }
  | none => c

def backendTime (c : Context) (now : Nat) : Nat :=
  match c.backendStarted with
  | some t => now - t
  | none => c.backendElapsed

def record (c : Context) (now : Nat) : Access.Record where
  requestId := c.id
  client := c.connection.peer
  server := c.connection.server
  method := c.head.method
  host := c.head.host
  uri := c.head.uri.text
  status := c.status
  startMs := c.startMs
  elapsedMs := c.elapsed now
  backendElapsedMs := if c.fromCache then 0 else c.backendTime now
  action := c.decision.action
  routeId := c.decision.routeId
  userId := c.decision.userId
  sessionId := c.decision.sessionId
  tlsProtocol := c.connection.tls.map Tls.protocol
  tlsCipher := c.connection.tls.map Tls.cipher
  fromCache := c.fromCache

/-- The record of a request that ends now. One that ends before any head was sent has been given
up by its client. -/
def finish (c : Context) (now : Nat) : Access.Record :=
  let c := if c.headersSent then c else { c with status := Forward.clientClosedRequest }
  (c.backendDone now).record now

end Context
end ReverseProxy.Request
