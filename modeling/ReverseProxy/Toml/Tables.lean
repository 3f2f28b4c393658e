import ReverseProxy.Toml.Value

set_option autoImplicit false

/-!
# TOML tables

A file fills one table at a time: the root first, then each table that a header names. A table
has one header at most, and what dotted keys or values made cannot be reopened by a header.
-/
namespace ReverseProxy.Toml

inductive Item where
  | value (d : Document)
  /-- `implicit`: no header has named it yet. `dotted`: a dotted key made it. -/
  | table (implicit dotted : Bool) (entries : List (String × Item))
  | tables (elements : List (List (String × Item)))

abbrev Entries := List (String × Item)

def changeLast? {α : Type} (change : α → Option α) : List α → Option (List α)
  | [] => none
  | [a] => (change a).map ([·])
  | a :: as => (changeLast? change as).map (a :: ·)

/-- Applies `change` to the table at `path`, making the tables on the way. A dotted path does not
enter a table that has a header. -/
def changeAt? (dotted : Bool) (change : Bool → Entries → Option Entries) :
    List String → Bool → Entries → Option Entries
  | [], made, entries => change made entries
  | key :: path, _, entries =>
    match find? key entries with
    | none => (changeAt? dotted change path dotted []).map fun es =>
        entries ++ [(key, .table true dotted es)]
    | some (.table implicit made es) =>
      if dotted ∧ ¬implicit then none
      else (changeAt? dotted change path made es).map fun es =>
        put key (.table implicit made es) entries
    | some (.tables elements) =>
      (changeLast? (changeAt? dotted change path false) elements).map fun els =>
        put key (.tables els) entries
    | some (.value _) => none

def assign? (path : List String) (d : Document) (current : Entries) : Option Entries :=
  match path.getLast? with
  | none => none
  | some key =>
    changeAt? true
      (fun made es =>
        if made = (path.length == 1) then none
        else match find? key es with
          | some _ => none
          | none => some (es ++ [(key, .value d)]))
      path.dropLast false current

structure Open where
  path : List String
  isElement : Bool
  entries : Entries

structure Progress where
  root : Entries
  current : Open

def Progress.empty : Progress := ⟨[], ⟨[], false, []⟩⟩

def Progress.close? (p : Progress) : Option Entries :=
  let t := p.current
  match t.path.getLast? with
  | none => some t.entries
  | some key =>
    changeAt? false
      (fun _ es =>
        match find? key es with
        | none =>
          if t.isElement then some (es ++ [(key, .tables [t.entries])])
          else some (es ++ [(key, .table false false t.entries)])
        | some (.tables els) =>
          if t.isElement then some (put key (.tables (els ++ [t.entries])) es) else none
        | some _ => none)
      t.path.dropLast false p.root

def entriesAt? : List String → Entries → Option Entries
  | [], es => some es
  | key :: path, es =>
    match find? key es with
    | none => some []
    | some (.table _ _ inner) => entriesAt? path inner
    | some (.tables els) => (els.getLast?).bind (entriesAt? path)
    | some (.value _) => none

def remove {α : Type} (key : String) (entries : List (String × α)) : List (String × α) :=
  entries.filter fun e => e.1 != key

/-- Opens the table of a header `[path]`. One that exists only because a longer header went
through it is taken up with what it holds. -/
def openTable? (path : List String) (root : Entries) : Option Progress :=
  match path.getLast? with
  | none => none
  | some key => do
    let parent ← entriesAt? path.dropLast root
    match find? key parent with
    | none => some ⟨root, ⟨path, false, []⟩⟩
    | some (.table true false held) => do
      let root ← changeAt? false (fun _ es => some (remove key es)) path.dropLast false root
      some ⟨root, ⟨path, false, held⟩⟩
    | some _ => none

def openElement? (path : List String) (root : Entries) : Option Progress :=
  match path.getLast? with
  | none => none
  | some key => do
    let parent ← entriesAt? path.dropLast root
    match find? key parent with
    | none => some ⟨root, ⟨path, true, []⟩⟩
    | some (.tables _) => some ⟨root, ⟨path, true, []⟩⟩
    | some _ => none

mutual
def Item.document : Item → Document
  | .value d => d
  | .table _ _ entries => .table (fieldsOf entries)
  | .tables elements => .list (elementsOf elements)
def fieldsOf : List (String × Item) → List (String × Document)
  | [] => []
  | (k, i) :: es => (k, i.document) :: fieldsOf es
def elementsOf : List (List (String × Item)) → List Document
  | [] => []
  | es :: rest => .table (fieldsOf es) :: elementsOf rest
end

end ReverseProxy.Toml
