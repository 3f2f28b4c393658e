import ReverseProxy.CommandLine

set_option autoImplicit false

namespace ReverseProxy.CommandLine

def cause : IO.Error → FileError
  | .noFileOrDirectory .. => .missing
  | .inappropriateType _ 20 _ => .notDirectory
  | .inappropriateType _ 21 _ => .isDirectory
  | .invalidArgument _ 36 _ => .nameTooLong
  | e => .other (toString e)

def content (path : String) : IO (Except FileError Bytes) := do
  match ← (IO.FS.readBinFile path).toBaseIO with
  | .ok content => return .ok content.toList
  | .error e => return .error (cause e)

def perform (args : List String) : IO Outcome := do
  match read {} args with
  | .run o => return (o.run (← content o.path)).outcome
  | _ => return (run args fun _ => .error .missing).outcome

end ReverseProxy.CommandLine

def main (args : List String) : IO UInt32 := do
  let o ← ReverseProxy.CommandLine.perform args
  IO.print o.stdout
  IO.eprint o.stderr
  return UInt32.ofNat o.exit
