import ReverseProxy.Proxy.Reply
import ReverseProxy.Proxy.State

set_option autoImplicit false

/-!
# Forwarding

How a request gets a lease, goes to its backend and is answered, one event at a time. Each forward
holds what it has taken until it ends: its place among the pending ones, its lease, its capture and
its context.
-/
namespace ReverseProxy
open Request

inductive Outcome where
  | response (r : Http.Response)
  | streaming (status : Http.Status) (headers : Http.Headers)
  | none
  /-- A date outside the calendar had to be written, or slots beyond all counting provided. -/
  | crashed
deriving DecidableEq, Repr

namespace Proxy

/-- Sends a whole response and ends the request. The decision's changes come last. -/
def answer (p : Proxy) (c : Context) (r : Http.Response) : Outcome × Proxy :=
  let c := { c with status := r.status, headersSent := true }
  (.response { r with headers := Routing.applyMutations r.headers c.decision.headers }, p.finish c)

def crash (p : Proxy) (c : Context) : Outcome × Proxy := (.crashed, p.finish c)

def fail (p : Proxy) (m : Routing.Mapper) (c : Context) (why : Forward.Failure) :
    Outcome × Proxy :=
  (p.noteFailure c.id why).answer c (Reply.failure p.pages m c why.status)

def failForward (p : Proxy) (f : Forward) (why : Forward.Failure) : Outcome × Proxy :=
  (p.dropForward f.context.id).endPending.fail f.mappedBy f.context why

def crashForward (p : Proxy) (f : Forward) : Outcome × Proxy :=
  (p.dropForward f.context.id).endPending.crash f.context

def refuse (p : Proxy) (f : Forward) (why : Pool.Refusal) : Outcome × Proxy :=
  match Forward.Failure.ofRefusal? why with
  | some failure => p.failForward f failure
  | none => p.crashForward f

/-- Only a pool that was replaced in the meantime is asked for again. -/
def mayRetry (retries : Nat) : Pool.Refusal → Bool
  | .closed _ => 0 < retries
  | .exhausted _ _ => false
  | .tooManySlots _ => false

def send (p : Proxy) (f : Forward) (l : Pool.Lease) : Proxy :=
  p.putForward { f with
    stage := .sent l
    context := f.context.backendStart p.pools.nowMs }

/-- Asks the pool of the request's host for a lease, up to as many more times as there are
retries. -/
def askForLease (p : Proxy) (f : Forward) (retries : Nat) : Outcome × Proxy :=
  let ref := p.pools.registry.resolve f.context.head.host
  let (t, pools) := p.pools.ask ref f.endpoint
  let p := { p with pools }
  match pools.answer? t with
  | some (.ok l) => (.none, p.send f l)
  | some (.error why) =>
    match retries with
    | 0 => p.refuse f why
    | n + 1 =>
      if mayRetry (n + 1) why then p.askForLease f n else p.refuse f why
  | none => (.none, p.putForward { f with stage := .waiting t ref retries })

def leaseAnswered (p : Proxy) (f : Forward) : Outcome × Proxy :=
  match f.stage with
  | .waiting t _ retries =>
    match p.pools.answer? t with
    | some (.ok l) => (.none, p.send f l)
    | some (.error why) =>
      if mayRetry retries why then p.askForLease f (retries - 1) else p.refuse f why
    | none => (.none, p)
  | _ => (.none, p)

def beginCapture (p : Proxy) (c : Context) : Option Cache.Capture :=
  let h := c.head
  p.cache.beginCapture (.ofRequest h.method h.uri h.headers c.isSecure) h.headers p.nowMs

def startForward (p : Proxy) (m : Routing.Mapper) (c : Context) (body : Bytes)
    (mayCapture : Bool) : Outcome × Proxy :=
  match c.decision.target with
  | none => p.fail m c (.invalidTarget ("route '" ++ c.decision.routeId ++ "' has no backend"))
  | some e =>
    let p := p.beginPending.changeStats e (·.record p.nowMs)
    let capture := if mayCapture then p.beginCapture c else none
    match Forward.Outgoing.ofIncoming ⟨c.head, body⟩ e capture.isSome with
    | .error why => p.endPending.fail m c why
    | .ok outgoing =>
      p.askForLease ⟨c, m, outgoing, e, capture, .waiting p.pools.nextTicket default 1⟩ 1

def releaseLease (p : Proxy) (l : Pool.Lease) : Proxy := { p with pools := p.pools.release l }

def exchangeFails (p : Proxy) (f : Forward) (why : Forward.Failure) : Outcome × Proxy :=
  match f.stage with
  | .sent l => (p.releaseLease l).failForward f why
  | _ => (.none, p)

def poolIdOf (p : Proxy) (l : Pool.Lease) : String :=
  ((p.pools.registry.pool? l.pool).map (·.id)).getD ""

/-- The headers that the client gets: the expiry of a response that is being stored is shown. -/
def clientHeaders (capture : Option Cache.Capture) (h : Http.Headers) : Http.Headers :=
  match capture.bind (·.synthesizedExpires?) with
  | some expires => h.insert "expires" expires
  | none => h

def captureHead? (f : Forward) (status : Http.Status) (h : Http.Headers) :
    Option (Option Cache.Capture) :=
  match f.capture with
  | some c => (c.onHead? status h).map some
  | none => some none

def headArrives (p : Proxy) (f : Forward) (status : Http.Status) (h : Http.Headers) :
    Outcome × Proxy :=
  match f.stage with
  | .sent l =>
    let h := h.stripHopByHop
    match captureHead? f status h with
    | none => (p.releaseLease l).crashForward f
    | some capture =>
      let pump : Forward.Pump := {
        endpoint := f.endpoint
        poolId := p.poolIdOf l
        stuckAfter := p.stuckTimeout
        capture := capture.filter (·.isActive) }
      let context := { f.context with status, headersSent := true }
      let headers := Routing.applyMutations (clientHeaders capture h) context.decision.headers
      (.streaming status headers,
        p.putForward { f with context, capture := none, stage := .streaming l pump })
  | _ => (.none, p)

def commit (p : Proxy) (capture : Option Cache.Capture) : Proxy :=
  match capture with
  | some c => if c.isActive then { p with cache := (p.cache.commit c p.nowMs).2 } else p
  | none => p

def endStream (p : Proxy) (f : Forward) (l : Pool.Lease) (pump : Forward.Pump)
    (how : Forward.Ending) : Proxy :=
  let p := match how with
    | .complete => (p.commit pump.capture).reportSuccess f.endpoint
    | .failed why => p.noteFailure f.context.id why
  ((p.releaseLease l).dropForward f.context.id).endPending.finish f.context

/-- What a pump event does besides moving the pump: data that is read is activity of backend and
request. -/
def touch (p : Proxy) (f : Forward) : Forward.PumpPhase → Forward.PumpEvent → Proxy × Context
  | .reading, .backend (.chunk _) =>
    (p.changeStats f.endpoint (·.touch p.nowMs), f.context.touch p.pools.nowMs)
  | _, _ => (p, f.context)

def pumpEvent (p : Proxy) (f : Forward) (e : Forward.PumpEvent) : Outcome × Proxy :=
  match f.stage with
  | .streaming l pump =>
    let (p, context) := p.touch f pump.phase e
    let pump := pump.step e
    let context := if pump.isListening then context else context.backendDone p.pools.nowMs
    let f := { f with context, stage := .streaming l pump }
    match pump.ending? with
    | some how => (.none, p.endStream f l pump how)
    | none => (.none, p.putForward f)
  | _ => (.none, p)

def clientLeaves (p : Proxy) (f : Forward) : Outcome × Proxy :=
  match f.stage with
  | .waiting t _ _ =>
    let p := { p with pools := p.pools.discard t }
    (.none, (p.dropForward f.context.id).endPending.finish f.context)
  | .sent l => (.none, ((p.releaseLease l).dropForward f.context.id).endPending.finish f.context)
  | .streaming _ _ => p.pumpEvent f .clientLeaves

def silence (p : Proxy) (f : Forward) : Outcome × Proxy :=
  match f.stage with
  | .sent _ => p.exchangeFails f (.stuck f.endpoint p.stuckTimeout)
  | _ => p.pumpEvent f .silence

def cutOff (p : Proxy) (f : Forward) : Outcome × Proxy :=
  match f.stage with
  | .sent l =>
    if p.pools.isCutOff l then p.exchangeFails f (.poolClosed (p.poolIdOf l)) else (.none, p)
  | .streaming l _ => if p.pools.isCutOff l then p.pumpEvent f .cutOff else (.none, p)
  | .waiting _ _ _ => (.none, p)

end Proxy

inductive Forward.Event where
  | leaseAnswered
  | connectFails (reason : String)
  /-- The exchange failed after the connection was made, before a head arrived. -/
  | exchangeFails (reason : String)
  | headArrives (status : Http.Status) (headers : Http.Headers)
  | silence
  | cutOff
  | body (e : Forward.BodyEvent)
  | clientReads
  | clientLeaves
  | noRoom
deriving DecidableEq, Repr

/-- Lets something happen to a forward. Events that its stage does not wait for change nothing. -/
def Proxy.onForward (p : Proxy) (f : Forward) : Forward.Event → Outcome × Proxy
  | .leaseAnswered => p.leaseAnswered f
  | .connectFails reason => p.exchangeFails f (.connect f.endpoint reason)
  | .exchangeFails reason => p.exchangeFails f (.exchange f.endpoint reason)
  | .headArrives status headers => p.headArrives f status headers
  | .silence => p.silence f
  | .cutOff => p.cutOff f
  | .body e => p.pumpEvent f (.backend e)
  | .clientReads => p.pumpEvent f .clientReads
  | .clientLeaves => p.clientLeaves f
  | .noRoom => p.pumpEvent f .noRoom

end ReverseProxy
