import ReverseProxy.Toml.Tables

set_option autoImplicit false

namespace ReverseProxy.Toml

def header? (cs : List Char) (p : Progress) : Option (Progress × List Char) := do
  let root ← p.close?
  match cs with
  | '[' :: r => do
    let (path, cs) ← key? r
    match cs with
    | ']' :: ']' :: rest => do
      let rest ← lineEnd? rest
      some (← openElement? path root, rest)
    | _ => none
  | _ => do
    let (path, cs) ← key? cs
    match cs with
    | ']' :: rest => do
      let rest ← lineEnd? rest
      some (← openTable? path root, rest)
    | _ => none

def assignment? (cs : List Char) (p : Progress) : Option (Progress × List Char) := do
  let (path, cs) ← key? cs
  let cs ← mark? '=' cs
  let (d, cs) ← value? nestingLimit (skipSpace cs)
  let rest ← lineEnd? cs
  let entries ← assign? path d p.current.entries
  some (⟨p.root, { p.current with entries }⟩, rest)

def lines? : Nat → Progress → List Char → Option Progress
  | 0, _, _ => none
  | fuel + 1, p, cs =>
    match skipSpace cs with
    | [] => some p
    | '#' :: r => (lineEnd? ('#' :: r)).bind (lines? fuel p)
    | '[' :: r => do
      let (p, rest) ← header? r p
      lines? fuel p rest
    | r =>
      match newline? r with
      | some rest => lines? fuel p rest
      | none => do
        let (p, rest) ← assignment? r p
        lines? fuel p rest

/-- The document written by a text; a byte order mark in front is ignored. -/
def parse? (s : String) : Option Document := do
  let cs := match s.toList with
    | '\uFEFF' :: r => r
    | r => r
  let p ← lines? (cs.length + 1) .empty cs
  let root ← p.close?
  some (.table (fieldsOf root))

end ReverseProxy.Toml
