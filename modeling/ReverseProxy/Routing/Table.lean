import ReverseProxy.Config.Schema
import ReverseProxy.Routing.Condition
import ReverseProxy.Routing.Decision
import ReverseProxy.Routing.Group

set_option autoImplicit false

namespace ReverseProxy.Routing

inductive BuildError where
  | invalidBackend (name : String) (cause : Endpoint.Error)
  | unknownGroup (route group : String)
  | invalidHeader (route : String)
  | missingFixedGroup
  | unknownMapper (name : String)
deriving DecidableEq, Repr

def BuildError.message : BuildError → String
  | .invalidBackend name cause =>
    "backend '" ++ name ++ "' has an invalid address: " ++ cause.message
  | .unknownGroup route group =>
    "route '" ++ route ++ "' references unknown backend group '" ++ group ++ "'"
  | .invalidHeader route => "route '" ++ route ++ "' has an invalid header mutation"
  | .missingFixedGroup => "the fixed mapper needs routing.fixed_group"
  | .unknownMapper name => "unknown mapper '" ++ name ++ "'"

def compileMutation? (c : Config.HeaderChange) : Option Mutation := do
  let name ← Http.headerName? (Text.trim c.name)
  match c.op with
  | .remove => some (.remove name)
  | .set => (Http.headerValue? (Bytes.ofText c.value)).map (.set name)
  | .add => (Http.headerValue? (Bytes.ofText c.value)).map (.add name)

def compileMutations? (cs : List Config.HeaderChange) : Option (List Mutation) :=
  cs.mapM compileMutation?

/-- A page whose status is none is an internal error. -/
def compilePage (p : Config.Page) : PageSpec :=
  ⟨(Http.status? p.status.toNat).getD 500, some p.resource, []⟩

def compileRedirect (r : Config.Redirect) : RedirectTarget where
  location := r.location
  scheme := if Text.equalsIgnoringCase r.scheme "https" then .https else .http
  host := r.host
  port := r.port
  status := (r.status.bind fun s => Http.status? s.toNat).getD 302

abbrev Groups := List (String × Group)

namespace Groups

def find? (gs : Groups) (name : String) : Option Group :=
  (List.find? (·.1 == name) gs).map Prod.snd

def set (name : String) (g : Group) : Groups → Groups
  | [] => [(name, g)]
  | p :: ps => if p.1 == name then (name, g) :: ps else p :: set name g ps

def addEndpoint (gs : Groups) (name : String) (e : Endpoint) : Groups :=
  let held := ((gs.find? name).map Group.endpoints).getD []
  gs.set name ⟨held ++ [e], 0⟩

def ofBackends (bs : List Config.Backend) : Except BuildError Groups :=
  bs.foldlM (fun gs b =>
    match Endpoint.parse b.address with
    | .ok e => .ok (gs.addEndpoint b.group e)
    | .error cause => .error (.invalidBackend b.name cause)) []

end Groups

def dedup {α : Type} [DecidableEq α] : List α → List α
  | [] => []
  | [a] => [a]
  | a :: b :: l => if a = b then dedup (b :: l) else a :: dedup (b :: l)

def configuredEndpoints (c : Config) : List Endpoint :=
  dedup ((c.backends.filterMap fun b => (Endpoint.parse b.address).toOption).mergeSort
    Endpoint.before)

structure SitePages where
  notFound : Option PageSpec := none
  internalError : Option PageSpec := none
deriving DecidableEq, Repr

def SitePages.ofConfig (c : Config) : SitePages where
  notFound := c.pages.notFound.map compilePage
  internalError := c.pages.internalError.map compilePage

structure Route where
  name : String
  conditions : List Condition
  action : Config.RouteAction
  group : Option String
  resource : Option String
  redirect : Option RedirectTarget
  headers : List Mutation
  notFound : Option PageSpec
  internalError : Option PageSpec
deriving DecidableEq, Repr

namespace Route

def matchesRequest (r : Route) (view : RequestView) : Bool := allHold view r.conditions

/-- The group that a route refers to; a proxy route has to refer to one. -/
def checkGroup (c : Config.Route) (groups : Groups) : Except BuildError (Option String) :=
  match c.backendGroup with
  | some name =>
    if (groups.find? name).isSome then .ok (some name) else .error (.unknownGroup c.name name)
  | none => if c.action.isProxy then .error (.unknownGroup c.name "") else .ok none

def compile (groups : Groups) (c : Config.Route) : Except BuildError Route := do
  let group ← checkGroup c groups
  match compileMutations? c.headers with
  | none => .error (.invalidHeader c.name)
  | some headers => .ok {
      name := c.name
      conditions := (c.host.map Condition.ofHost).toList ++
        (c.pathPrefix.map Condition.pathPrefix).toList
      action := c.action
      group
      resource := c.resource
      redirect := c.redirect.map compileRedirect
      headers
      notFound := c.notFoundPage.map compilePage
      internalError := c.internalErrorPage.map compilePage }

end Route

def byPriority (rs : List Config.Route) : List Config.Route :=
  rs.mergeSort fun a b => decide (b.priority ≤ a.priority)

end ReverseProxy.Routing
