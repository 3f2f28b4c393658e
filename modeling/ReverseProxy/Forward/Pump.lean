import ReverseProxy.Cache.Capture
import ReverseProxy.Forward.Failure

set_option autoImplicit false

/-!
# Body pumps

A pump carries the body of a response from the backend to the client. Between them is a channel of
a few chunks; a full channel holds the pump up. What goes to the client goes to the capture behind
it. A body that breaks off is marked by an error item, unless the client leaves no room for it in
time.
-/
namespace ReverseProxy.Forward

def channelDepth : Nat := 8

inductive Item where
  | chunk (data : Bytes)
  | broken (message : String)
deriving DecidableEq, Repr

inductive BodyEvent where
  | chunk (data : Bytes)
  | trailers
  | complete
  | failed (reason : String)
deriving DecidableEq, Repr

inductive Ending where
  | complete
  | failed (why : Failure)
deriving DecidableEq, Repr

inductive PumpPhase where
  | reading
  | sending (data : Bytes)
  | breaking (why : Failure)
  | ended (how : Ending)
deriving DecidableEq, Repr

inductive PumpEvent where
  | backend (e : BodyEvent)
  | silence
  | cutOff
  | clientReads
  | clientLeaves
  /-- There was no room for the error item for the stuck timeout. -/
  | noRoom
deriving DecidableEq, Repr

structure Pump where
  endpoint : Endpoint
  poolId : String
  stuckAfter : Duration
  capture : Option Cache.Capture
  channel : List Item := []
  delivered : List Item := []
  clientGone : Bool := false
  phase : PumpPhase := .reading
deriving DecidableEq, Repr

namespace Pump

def hasRoom (p : Pump) : Bool := p.channel.length < channelDepth

def endWith (p : Pump) (how : Ending) : Pump := { p with phase := .ended how }

/-- Stops the pump; a client that is still there is told. -/
def breakOff (p : Pump) (why : Failure) : Pump :=
  if p.clientGone || why == .clientGone then p.endWith (.failed why)
  else if p.hasRoom then
    { p with channel := p.channel ++ [.broken why.message], phase := .ended (.failed why) }
  else { p with phase := .breaking why }

def pass (p : Pump) (data : Bytes) : Pump :=
  { p with
    channel := p.channel ++ [.chunk data]
    capture := p.capture.map (·.onChunk data)
    phase := .reading }

def onBody (p : Pump) : BodyEvent → Pump
  | .chunk data =>
    if p.clientGone then p.endWith (.failed .clientGone)
    else if p.hasRoom then p.pass data
    else { p with phase := .sending data }
  | .trailers => p
  | .complete => p.endWith .complete
  | .failed reason => p.breakOff (.exchange p.endpoint reason)

def onRead (p : Pump) : Pump :=
  match p.channel with
  | [] => p
  | item :: channel =>
    let p := { p with channel, delivered := p.delivered ++ [item] }
    match p.phase with
    | .sending data => p.pass data
    | .breaking why => p.breakOff why
    | _ => p

def onLeave (p : Pump) : Pump :=
  let p := { p with clientGone := true, channel := [] }
  match p.phase with
  | .reading | .sending _ => p.endWith (.failed .clientGone)
  | .breaking why => p.endWith (.failed why)
  | .ended _ => p

/-- Events that a phase does not wait for leave the pump alone. -/
def step (p : Pump) (e : PumpEvent) : Pump :=
  match e, p.phase with
  | .clientReads, _ => p.onRead
  | .clientLeaves, _ => p.onLeave
  | .backend b, .reading => p.onBody b
  | .silence, .reading => p.breakOff (.stuck p.endpoint p.stuckAfter)
  | .cutOff, .reading => p.breakOff (.poolClosed p.poolId)
  | .noRoom, .breaking why => p.endWith (.failed why)
  | _, _ => p

def run (p : Pump) (es : List PumpEvent) : Pump := es.foldl step p

def isListening (p : Pump) : Bool :=
  match p.phase with
  | .reading | .sending _ => true
  | _ => false

def ending? (p : Pump) : Option Ending :=
  match p.phase with
  | .ended how => some how
  | _ => none

def isDrained (p : Pump) : Bool := p.ending?.isSome && p.channel.isEmpty

def handedOver (p : Pump) : Bytes :=
  (p.delivered ++ p.channel).flatMap fun
    | .chunk data => data
    | .broken _ => []

end Pump
end ReverseProxy.Forward
