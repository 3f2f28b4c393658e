import ReverseProxy.Server

set_option autoImplicit false

/-!
# The gate

What a request passes before the server takes it in. It waits for one of the places that its pattern
has, its deadline may come before it is answered, and a packed body is unpacked where that is wanted.
-/
namespace ReverseProxy
open Request

namespace Server

inductive Pattern where
  | root
  | below
deriving DecidableEq, Repr

def Pattern.of? (path : String) : Option Pattern :=
  match path.toList with
  | ['/'] => some .root
  | '/' :: _ :: _ => some .below
  | _ => none

end Server

/-- A request that came to the gate, with the id it gets if it has none. -/
structure Visit where
  number : Nat
  connection : Connection
  request : Incoming
  fresh : Bytes
  arrivedMs : Nat
deriving DecidableEq, Repr

namespace Visit

def pattern? (v : Visit) : Option Server.Pattern := Server.Pattern.of? v.request.head.uri.path

def reply (v : Visit) (r : Http.Response) : Outcome :=
  Server.deliver (Server.named v.request v.fresh).head (.response r)

end Visit

structure Gate where
  server : Server
  unpack? : Option (Bytes → Bytes)
  /-- How many requests of each pattern, and of none, may be inside. -/
  places : Nat
  waiting : List Visit := []
  /-- Those inside that are not answered yet, with their numbers there. -/
  inside : List (Visit × Nat) := []
  nextNumber : Nat := 1

namespace Gate

def unpacks? (unpack : Bytes → Bytes) (c : Config) : Option (Bytes → Bytes) :=
  if c.forwarding.requestCompression then some unpack else none

def build (unpack : Bytes → Bytes) (c : Config) (pages : Pages) (nowMs : Nat) :
    Except BuildError Gate :=
  (Server.build c pages nowMs).map fun server => {
    server
    unpack? := unpacks? unpack c
    places := c.listener.maxConnections.toNat }

/-- The request as the server is to see it, unless its body is packed in an unknown way. -/
def opened? (unpack? : Option (Bytes → Bytes)) (r : Incoming) : Option Incoming :=
  match unpack?, r.head.headers.get? "content-encoding" with
  | some unpack, some encoding =>
    if encoding = Bytes.ofText "gzip" then
      let headers := (r.head.headers.remove "content-encoding").remove "content-length"
      some { head := { r.head with headers }, body := unpack r.body }
    else if encoding = Bytes.ofText "identity" then some r
    else none
  | _, _ => some r

def unsupported : Http.Response := ⟨415, ⟨[⟨"accept-encoding", Bytes.ofText "gzip"⟩]⟩, []⟩

def timedOut : Http.Response := ⟨504, .empty, []⟩

def hasPlace (g : Gate) (pattern? : Option Server.Pattern) : Bool :=
  g.inside.countP (·.1.pattern? == pattern?) < g.places

def next? (g : Gate) (pattern? : Option Server.Pattern) : Option Visit :=
  g.waiting.find? (·.pattern? == pattern?)

def isLate (g : Gate) (v : Visit) : Bool :=
  v.arrivedMs + g.server.requestTimeoutMs ≤ g.server.proxy.pools.nowMs

def visit (g : Gate) (connection : Connection) (r : Incoming) (fresh : Bytes) : Visit :=
  ⟨g.nextNumber, connection, r, fresh, g.server.proxy.pools.nowMs⟩

def pass (g : Gate) (e : Server.Event) : Outcome × Gate :=
  let (o, server) := g.server.step e
  (o, { g with server })

def forget (g : Gate) (number : Nat) : Gate :=
  { g with waiting := g.waiting.filter (·.number != number) }

def enter (g : Gate) (v : Visit) : Outcome × Gate :=
  let g := g.forget v.number
  match opened? g.unpack? v.request with
  | some r =>
    let (o, after) := g.pass (.request v.connection r v.fresh)
    (o, { after with inside := g.inside ++ [(v, g.server.proxy.nextId)] })
  | none => (v.reply unsupported, g)

/-- Nobody overtakes a request that waits for the same pattern. -/
def hasRoomFor (g : Gate) (v : Visit) : Bool :=
  g.hasPlace v.pattern? && (g.next? v.pattern?).isNone

/-- The request with a number that is not answered yet. If it is inside, its number there is given
too. -/
def unanswered? (g : Gate) (number : Nat) : Option (Visit × Option Nat) :=
  (g.inside.map (Prod.map id some) ++ g.waiting.map (·, none)).find? (·.1.number == number)

def abandon (g : Gate) (v : Visit) : Option Nat → Gate
  | some id => (g.pass (.forward id .clientLeaves)).2
  | none => g.forget v.number

inductive Event where
  | request (connection : Connection) (r : Incoming) (fresh : Bytes)
  /-- A free place of a pattern goes to the first request that waits for it. -/
  | turn (pattern? : Option Server.Pattern)
  | deadline (number : Nat)
  | leaves (number : Nat)
  | forward (id : Nat) (e : Forward.Event)
  | reload (c : Config)
  | timePasses (ms : Nat)
  | clockSet (nowMs : Nat)
  | sweep
deriving Repr

inductive Move where
  | enter (v : Visit)
  | expire (v : Visit) (id? : Option Nat)
  | leave (v : Visit) (id? : Option Nat)
  | pass (e : Server.Event)
  | stay
deriving DecidableEq, Repr

def move (g : Gate) : Event → Move
  | .request connection r fresh =>
    let v := g.visit connection r fresh
    if g.hasRoomFor v then .enter v else .stay
  | .turn pattern? =>
    match g.next? pattern? with
    | some v => if g.hasPlace pattern? then .enter v else .stay
    | none => .stay
  | .deadline number =>
    match g.unanswered? number with
    | some (v, id?) => if g.isLate v then .expire v id? else .stay
    | none => .stay
  | .leaves number =>
    match g.unanswered? number with
    | some (v, id?) => .leave v id?
    | none => .stay
  | .forward id e => .pass (.forward id e)
  | .reload c => .pass (.reload c)
  | .timePasses ms => .pass (.timePasses ms)
  | .clockSet nowMs => .pass (.clockSet nowMs)
  | .sweep => .pass .sweep

def newcomers (g : Gate) : Event → List Visit
  | .request connection r fresh => [g.visit connection r fresh]
  | _ => []

def join (g : Gate) (e : Event) : Gate :=
  { g with
    waiting := g.waiting ++ g.newcomers e
    nextNumber := g.nextNumber + (g.newcomers e).length }

def perform (g : Gate) : Move → Outcome × Gate
  | .enter v => g.enter v
  | .expire v id? => (v.reply timedOut, g.abandon v id?)
  | .leave v id? => (.none, g.abandon v id?)
  | .pass e => g.pass e
  | .stay => (.none, g)

/-- Those that are answered give their places back. -/
def settle (g : Gate) : Gate :=
  { g with inside := g.inside.filter fun x =>
      (g.server.proxy.forward? x.2).any (!·.context.headersSent) }

def step (g : Gate) (e : Event) : Outcome × Gate :=
  let (o, after) := (g.join e).perform (g.move e)
  (o, after.settle)

def run (g : Gate) (es : List Event) : Gate := es.foldl (fun g e => (g.step e).2) g

end Gate
end ReverseProxy
