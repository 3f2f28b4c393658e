import ReverseProxy.Toml.Number

set_option autoImplicit false

namespace ReverseProxy.Toml

/-- The entries of an inline table while it is read. `dotted` marks tables that dotted keys made;
only those can be extended. -/
inductive Inline where
  | value (d : Document)
  | table (dotted : Bool) (entries : List (String × Inline))

def find? {α : Type} (key : String) (entries : List (String × α)) : Option α :=
  (entries.find? fun e => e.1 == key).map Prod.snd

def put {α : Type} (key : String) (a : α) : List (String × α) → List (String × α)
  | [] => [(key, a)]
  | e :: es => if e.1 == key then (key, a) :: es else e :: put key a es

/-- Adds a value under a dotted key; `none` when the place is taken. -/
def insertInline? : List String → Document → List (String × Inline) →
    Option (List (String × Inline))
  | [], _, _ => none
  | [key], d, entries =>
    match find? key entries with
    | some _ => none
    | none => some (entries ++ [(key, .value d)])
  | key :: path, d, entries =>
    match find? key entries with
    | none => (insertInline? path d []).map fun es => entries ++ [(key, .table true es)]
    | some (.table true es) => (insertInline? path d es).map fun es => put key (.table true es) entries
    | some _ => none

mutual
def Inline.document : Inline → Document
  | .value d => d
  | .table _ entries => .table (inlineFields entries)
def inlineFields : List (String × Inline) → List (String × Document)
  | [] => []
  | (k, e) :: es => (k, e.document) :: inlineFields es
end

abbrev Read (α : Type) := List Char → Option (α × List Char)

def arrayItems? (item : Read Document) : Nat → Read (List Document)
  | 0, _ => none
  | fuel + 1, cs => do
    let cs ← skipBlank cs
    match cs with
    | ']' :: rest => some ([], rest)
    | _ => do
      let (d, cs) ← item cs
      match ← skipBlank cs with
      | ',' :: r => do
        let (ds, rest) ← arrayItems? item fuel r
        some (d :: ds, rest)
      | ']' :: rest => some ([d], rest)
      | _ => none

/-- The entries of an inline table after its brace, on one line and without a final comma. -/
def inlineEntries? (item : Read Document) :
    Nat → List (String × Inline) → Read (List (String × Inline))
  | 0, _, _ => none
  | fuel + 1, entries, cs => do
    let (path, cs) ← key? cs
    let cs ← mark? '=' cs
    let (d, cs) ← item (skipSpace cs)
    let entries ← insertInline? path d entries
    match skipSpace cs with
    | ',' :: r => inlineEntries? item fuel entries r
    | '}' :: rest => some (entries, rest)
    | _ => none

def inlineTable? (item : Read Document) (cs : List Char) : Option (Document × List Char) :=
  match skipSpace cs with
  | '}' :: rest => some (.table [], rest)
  | r => (inlineEntries? item (r.length + 1) [] r).map fun (es, rest) =>
      (.table (inlineFields es), rest)

/-- A value that nests at most `levels` arrays and inline tables. -/
def value? : Nat → Read Document
  | levels, cs =>
    match cs with
    | '"' :: _ => (string? cs).map fun (s, rest) => (.text (String.ofList s), rest)
    | '\'' :: _ => (string? cs).map fun (s, rest) => (.text (String.ofList s), rest)
    | '[' :: r =>
      match levels with
      | 0 => none
      | n + 1 => (arrayItems? (value? n) (r.length + 1) r).map fun (ds, rest) => (.list ds, rest)
    | '{' :: r =>
      match levels with
      | 0 => none
      | n + 1 => inlineTable? (value? n) r
    | 't' :: 'r' :: 'u' :: 'e' :: rest => some (.bool true, rest)
    | 'f' :: 'a' :: 'l' :: 's' :: 'e' :: rest => some (.bool false, rest)
    | _ => numeric? cs

end ReverseProxy.Toml
