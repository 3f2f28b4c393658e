import ReverseProxy.Config.Load

set_option autoImplicit false

namespace ReverseProxy.CommandLine

structure Options where
  config : Option String := none
  validate : Bool := false
deriving DecidableEq, Repr, Inhabited

inductive Request where
  | usageError
  | help
  | run (options : Options)
deriving DecidableEq, Repr

def defaultConfig : String := "edge-proxy.toml"

/-- An option may be given once, and its value is not empty. -/
def Options.setConfig? (o : Options) (value : String) : Option Options :=
  if o.config.isSome || value = "" then none else some { o with config := some value }

def looksLikeOption (s : String) : Bool := Text.hasStart "-" s && s ≠ "-"

def read (o : Options) : List String → Request
  | [] => .run o
  | "--validate" :: rest =>
    if o.validate then .usageError else read { o with validate := true } rest
  | "--help" :: _ => .help
  | "--" :: rest => if rest.isEmpty then .run o else .usageError
  | arg :: rest =>
    if arg = "--config" ∨ arg = "-c" then
      match rest with
      | [] => .usageError
      | value :: rest =>
        if looksLikeOption value then .usageError
        else
          match o.setConfig? value with
          | some o => read o rest
          | none => .usageError
    else
      match Text.stripStart? "--config=" arg with
      | some value =>
        match o.setConfig? value with
        | some o => read o rest
        | none => .usageError
      | none =>
        if Text.hasStart "-h" arg then .help
        else
          match Text.stripStart? "-c" arg with
          | some value =>
            match o.setConfig? ((Text.stripStart? "=" value).getD value) with
            | some o => read o rest
            | none => .usageError
          | none => .usageError

def helpText : String :=
  "Caching reverse proxy\n\nUsage: edge-proxy [OPTIONS]\n\nOptions:\n" ++
  "  -c, --config <CONFIG>  Path to the TOML configuration file [default: edge-proxy.toml]\n" ++
  "      --validate         Validate the configuration and exit\n" ++
  "  -h, --help             Print help\n"

structure Outcome where
  exit : Nat
  stdout : String
  stderr : String
deriving DecidableEq, Repr

inductive Run where
  | done (o : Outcome)
  | serve (c : Config)
deriving DecidableEq, Repr

def Options.path (o : Options) : String := o.config.getD defaultConfig

def Options.run (o : Options) (content : Except FileError Bytes) : Run :=
  match Config.load content with
  | .ok c => if o.validate then .done ⟨0, o.path ++ ": configuration is valid\n", ""⟩ else .serve c
  | .error .unreadable => .done ⟨1, "", o.path ++ ": " ++ Config.LoadError.message .unreadable⟩
  | .error e => .done ⟨1, "", o.path ++ ": " ++ e.message ++ "\n"⟩

def run (args : List String) (content : String → Except FileError Bytes) : Run :=
  match read {} args with
  | .usageError => .done ⟨2, "", ""⟩
  | .help => .done ⟨0, helpText, ""⟩
  | .run o => o.run (content o.path)

/-- This program has no listener: a server is run by feeding it events. -/
def withoutListener : Outcome := ⟨1, "", "no listener is available, use --validate\n"⟩

def Run.outcome : Run → Outcome
  | .done o => o
  | .serve _ => withoutListener

end ReverseProxy.CommandLine
