import ReverseProxy.Config.Decode
import ReverseProxy.Config.Validation
import ReverseProxy.Files
import ReverseProxy.Text.Utf8
import ReverseProxy.Toml.File

set_option autoImplicit false

namespace ReverseProxy.Config

inductive LoadError where
  | io (cause : FileError)
  | unreadable
  | invalid (findings : List Finding)
deriving DecidableEq, Repr

/-- What a user is told; the place of a syntax error is left open. -/
def LoadError.message : LoadError → String
  | .io cause => "IO error: " ++ cause.message
  | .unreadable => "Parse error: "
  | .invalid fs => "Validation failed: " ++ findingsText fs

def checked (c : Config) : Except LoadError Config :=
  if c.findings = [] then .ok c else .error (.invalid c.findings)

def parse (content : String) : Except LoadError Config :=
  match (Toml.parse? content).bind (ofDocument? .toml) with
  | some c => checked c
  | none => .error .unreadable

def load : Except FileError Bytes → Except LoadError Config
  | .error cause => .error (.io cause)
  | .ok content =>
    match Utf8.decode? content with
    | some cs => parse (String.ofList cs)
    | none => .error (.io .notText)

end ReverseProxy.Config
