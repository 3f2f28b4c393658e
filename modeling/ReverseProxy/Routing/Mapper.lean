import ReverseProxy.Routing.Table

set_option autoImplicit false

/-!
# Mappers

A mapper decides about every request and knows the pages to show when a request fails. Its groups
remember whose turn it is, so deciding gives a new mapper.
-/
namespace ReverseProxy.Routing

inductive Rules where
  | table (routes : List Route)
  | fixed (group : String)
  /-- Every request gets the same decision, if any. -/
  | constant (decision : Option Decision)
deriving DecidableEq, Repr

structure Mapper where
  rules : Rules
  groups : Groups
  pages : SitePages
deriving DecidableEq, Repr

namespace Mapper

def acmePrefix : String := "/.well-known/acme-challenge/"

def acmeResource? (path : String) : Option String :=
  match Text.stripStart? acmePrefix path with
  | some token =>
    if token ≠ "" ∧ ¬token.toList.contains '/' then some (Text.trimStartOf '/' path) else none
  | none => none

def take (m : Mapper) (name : String) (available : Endpoint → Bool) : Option Endpoint × Mapper :=
  match m.groups.find? name with
  | some g =>
    let (e, g) := g.next available
    (e, { m with groups := m.groups.set name g })
  | none => (none, m)

def decide (m : Mapper) (r : Route) (available : Endpoint → Bool) : Decision × Mapper :=
  let plain : Decision × Mapper :=
    match r.action with
    | .proxy | .proxyAndCache =>
      match r.group with
      | some name =>
        match m.take name available with
        | (some e, m) => (Decision.proxy r.name e (r.action == .proxyAndCache), m)
        | (none, m) => (Decision.internalError r.name "no backend in group", m)
      | none => (Decision.internalError r.name "no backend in group", m)
    | .static => ({ action := .static, routeId := r.name, resource := r.resource }, m)
    | .redirect =>
      ({ action := .redirect, routeId := r.name, redirect := some (r.redirect.getD {}) }, m)
    | .notFound => ({ Decision.notFound r.name with page := r.notFound }, m)
    | .internalError =>
      ({ Decision.internalError r.name "configured" with page := r.internalError }, m)
  ({ plain.1 with headers := r.headers }, plain.2)

/-- The decision for a request, none if the mapper has none. -/
def map (m : Mapper) (view : RequestView) (available : Endpoint → Bool) :
    Option Decision × Mapper :=
  match m.rules with
  | .constant d => (d, m)
  | .fixed name =>
    match m.take name available with
    | (some e, m) => (some (Decision.proxy name e false), m)
    | (none, m) => (none, m)
  | .table routes =>
    match acmeResource? view.path with
    | some resource =>
      (some { action := .acmeChallenge, routeId := "acme", resource := some resource }, m)
    | none =>
      match routes.find? (·.matchesRequest view) with
      | some r =>
        let (d, m) := m.decide r available
        (some d, m)
      | none => (some (Decision.notFound "unmatched"), m)

def route? (m : Mapper) (routeId : String) : Option Route :=
  match m.rules with
  | .table routes => routes.find? (·.name == routeId)
  | _ => none

/-- The page for requests that found nothing: the route's own, else the site's. -/
def notFoundPage (m : Mapper) (routeId : String) : Option PageSpec :=
  ((m.route? routeId).bind Route.notFound).or m.pages.notFound

def internalErrorPage (m : Mapper) (routeId : String) : Option PageSpec :=
  ((m.route? routeId).bind Route.internalError).or m.pages.internalError

def names : List String := ["fixed", "routes"]

def ofRoutes (c : Config) : Except BuildError Mapper := do
  let groups ← Groups.ofBackends c.backends
  let routes ← (byPriority c.routes).mapM (Route.compile groups)
  .ok ⟨.table routes, groups, .ofConfig c⟩

def ofFixedGroup (c : Config) : Except BuildError Mapper := do
  match c.routing.fixedGroup with
  | none => .error .missingFixedGroup
  | some name =>
    let groups ← Groups.ofBackends c.backends
    if (groups.find? name).isSome then .ok ⟨.fixed name, groups, .ofConfig c⟩
    else .error (.unknownGroup "fixed" name)

def build (c : Config) : Except BuildError Mapper :=
  if c.routing.mapper = "routes" then ofRoutes c
  else if c.routing.mapper = "fixed" then ofFixedGroup c
  else .error (.unknownMapper c.routing.mapper)

end Mapper
end ReverseProxy.Routing
