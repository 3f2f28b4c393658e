import ReverseProxy.Files
import ReverseProxy.Http.Message

set_option autoImplicit false

namespace ReverseProxy

structure Resource where
  contentType : String
  body : Bytes
deriving DecidableEq, Repr, Inhabited

structure Pages where
  resources : List (String × Resource)
deriving DecidableEq, Repr, Inhabited

namespace Pages

def empty : Pages := ⟨[]⟩

def contentTypes : List (String × String) :=
  [("html", "text/html; charset=utf-8"), ("htm", "text/html; charset=utf-8"), ("css", "text/css"),
    ("js", "application/javascript"), ("json", "application/json"),
    ("txt", "text/plain; charset=utf-8"), ("svg", "image/svg+xml"), ("png", "image/png"),
    ("ico", "image/x-icon")]

/-- By the extension of the last segment; without one it is plain text. -/
def contentType (name : String) : String :=
  let file := ((Text.cutLast? '/' name).map Prod.snd).getD name
  match Text.cutLast? '.' file with
  | none => "text/plain; charset=utf-8"
  | some (_, ext) =>
    ((contentTypes.find? (·.1 == Text.lower ext)).map Prod.snd).getD "application/octet-stream"

def key (id : String) : String := Text.trimStartOf '/' id

def insert (p : Pages) (id : String) (body : Bytes) : Pages :=
  ⟨(key id, ⟨contentType id, body⟩) :: p.resources.filter (·.1 != key id)⟩

def load (fs : Files) (root : String) : Except FileError Pages := do
  return (← fs.below root).foldl (fun p (path, content) => p.insert path content) empty

def find? (p : Pages) (id : String) : Option Resource :=
  (p.resources.find? (·.1 == key id)).map Prod.snd

def contains (p : Pages) (id : String) : Bool := (p.find? id).isSome

def genericBody (s : Http.Status) : String :=
  let title := Text.ofNat s ++ " " ++ (Http.reason? s).getD "Error"
  "<!DOCTYPE html>\n<html><head><title>" ++ title ++ "</title></head><body><h1>" ++ title ++
    "</h1></body></html>\n"

def withType (s : Http.Status) (contentType : String) (body : Bytes) : Http.Response :=
  ⟨s, Http.Headers.empty.insert "content-type" (Bytes.ofText contentType), body⟩

def generic (s : Http.Status) : Http.Response :=
  withType s "text/html; charset=utf-8" (Bytes.ofText (genericBody s))

/-- The page of a resource, or the generic page without one. A missing resource is not found,
except that an error page keeps its status. -/
def render (p : Pages) (s : Http.Status) (resource : Option String) : Http.Response :=
  match resource with
  | none => generic s
  | some id =>
    match p.find? id with
    | some r => withType s r.contentType r.body
    | none => if Http.Status.isSuccess s then generic 404 else generic s

end Pages
end ReverseProxy
