import ReverseProxy.Bytes
import ReverseProxy.Text

set_option autoImplicit false

namespace ReverseProxy

inductive FileError where
  | missing
  | notDirectory
  | isDirectory
  | nameTooLong
  | notText
  | other (text : String)
deriving DecidableEq, Repr

def FileError.message : FileError → String
  | .missing => "No such file or directory (os error 2)"
  | .notDirectory => "Not a directory (os error 20)"
  | .isDirectory => "Is a directory (os error 21)"
  | .nameTooLong => "File name too long (os error 36)"
  | .notText => "stream did not contain valid UTF-8"
  | .other text => text

/-- Contents by the names on the way to them. -/
structure Files where
  entries : List (List String × Bytes)
deriving DecidableEq, Repr, Inhabited

namespace Files

def empty : Files := ⟨[]⟩

def maxName : Nat := 255

def maxPath : Nat := 4095

def staysPut (name : String) : Bool := name == "" || name == "."

def names? (path : String) : Option (List String) :=
  if Text.hasStart "/" path then none
  else (Text.splitOn '/' path).foldlM (fun names name =>
    if staysPut name then some names
    else if name = ".." then (if names.isEmpty then none else some names.dropLast)
    else some (names ++ [name])) []

def put (fs : Files) (names : List String) (content : Bytes) : Files :=
  ⟨fs.entries.filter (·.1 != names) ++ [(names, content)]⟩

/-- Writes a file; one of the same path is replaced. Above the directory nothing is kept. -/
def insert (fs : Files) (path : String) (content : Bytes) : Files :=
  match names? path with
  | some names => fs.put names content
  | none => fs

def ofList (files : List (String × Bytes)) : Files :=
  files.foldl (fun fs (path, content) => fs.insert path content) empty

inductive Place where
  | directory (names : List String)
  | above
  | file (content : Bytes)
deriving DecidableEq, Repr

def child (fs : Files) (directory : List String) (name : String) : Except FileError Place :=
  let names := directory ++ [name]
  match fs.entries.find? (·.1 == names) with
  | some (_, content) => .ok (.file content)
  | none =>
    if fs.entries.any fun e => names.isPrefixOf e.1 then .ok (.directory names) else .error .missing

def enter (fs : Files) (place : Place) (name : String) : Except FileError Place :=
  match place with
  | .file _ => .error .notDirectory
  | .above =>
    if staysPut name || name == ".." then .ok .above
    else .error (if maxName < name.utf8ByteSize then .nameTooLong else .missing)
  | .directory names =>
    if staysPut name then .ok place
    else if name = ".." then .ok (if names.isEmpty then .above else .directory names.dropLast)
    else if maxName < name.utf8ByteSize then .error .nameTooLong
    else fs.child names name

/-- What a path leads to; one that starts with a slash starts at the top. -/
def locate (fs : Files) (path : String) : Except FileError Place :=
  if path = "" then .error .missing
  else if maxPath < path.utf8ByteSize then .error .nameTooLong
  else
    let start := if Text.hasStart "/" path then Place.above else .directory []
    (Text.splitOn '/' path).foldlM fs.enter start

def read (fs : Files) (path : String) : Except FileError Bytes := do
  match ← fs.locate path with
  | .file content => return content
  | _ => .error .isDirectory

def below (fs : Files) (path : String) : Except FileError (List (String × Bytes)) := do
  match ← fs.locate path with
  | .file _ => .error .notDirectory
  | .above => .error .missing
  | .directory names =>
    return (fs.entries.filter fun e => names.isPrefixOf e.1).map fun (path, content) =>
      (Text.join "/" (path.drop names.length), content)

theorem find?_put (fs : Files) (names : List String) (content : Bytes) :
    (fs.put names content).entries.find? (·.1 == names) = some (names, content) := by
  have h : (fs.entries.filter (·.1 != names)).find? (·.1 == names) = none := by
    simp [List.find?_eq_none]
  simp [put, List.find?_append, h]

end Files
end ReverseProxy
