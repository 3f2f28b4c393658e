import ReverseProxy.Bytes

set_option autoImplicit false

namespace ReverseProxy.Http

def tokenMarks : List Char :=
  ['!', '#', '$', '%', '&', '\'', '*', '+', '-', '.', '^', '_', '\x60', '|', '~']

def isTokenChar (c : Char) : Bool := c.isAlphanum || tokenMarks.contains c

def headerName? (s : String) : Option String :=
  let cs := s.toList
  if cs.isEmpty || !cs.all isTokenChar || 65535 < cs.length then none else some (Text.lower s)

def isValueByte (b : UInt8) : Bool := (0x20 ≤ b && b != 0x7f) || b == 9

def headerValue? (bs : Bytes) : Option Bytes := if bs.all isValueByte then some bs else none

structure Header where
  name : String
  value : Bytes
deriving DecidableEq, Repr, Inhabited

structure Headers where
  fields : List Header
deriving DecidableEq, Repr, Inhabited

namespace Headers

def empty : Headers := ⟨[]⟩

def getAll (h : Headers) (name : String) : List Bytes :=
  (h.fields.filter (·.name == name)).map Header.value

def get? (h : Headers) (name : String) : Option Bytes := (h.getAll name).head?

def text? (h : Headers) (name : String) : Option String := (h.get? name).bind Bytes.text?

def contains (h : Headers) (name : String) : Bool := h.fields.any (·.name == name)

def append (h : Headers) (name : String) (value : Bytes) : Headers :=
  ⟨h.fields ++ [⟨name, value⟩]⟩

def removeIf (h : Headers) (p : String → Bool) : Headers := ⟨h.fields.filter fun f => !p f.name⟩

def remove (h : Headers) (name : String) : Headers := h.removeIf (· == name)

def insert (h : Headers) (name : String) (value : Bytes) : Headers :=
  (h.remove name).append name value

theorem getAll_append (h : Headers) (name other : String) (value : Bytes) :
    (h.append name value).getAll other =
      h.getAll other ++ if name = other then [value] else [] := by
  by_cases e : name = other <;> simp [getAll, append, List.filter_append, e]

theorem getAll_removeIf (h : Headers) (p : String → Bool) (name : String) :
    (h.removeIf p).getAll name = if p name then [] else h.getAll name := by
  simp only [getAll, removeIf, List.filter_filter]
  by_cases e : p name
  · rw [if_pos e, List.map_eq_nil_iff, List.filter_eq_nil_iff]
    intro f _ hf
    simp only [Bool.and_eq_true, beq_iff_eq, Bool.not_eq_true'] at hf
    simp [← hf.1, hf.2] at e
  · rw [if_neg e]
    congr 1
    apply List.filter_congr
    intro f _
    by_cases hn : f.name = name
    · simp [hn, e]
    · simp [hn]

theorem getAll_remove (h : Headers) (name other : String) :
    (h.remove name).getAll other = if other = name then [] else h.getAll other := by
  simp [remove, getAll_removeIf]

theorem getAll_insert (h : Headers) (name other : String) (value : Bytes) :
    (h.insert name value).getAll other = if name = other then [value] else h.getAll other := by
  rw [insert, getAll_append, getAll_remove]
  by_cases e : name = other
  · simp [e]
  · have e' : ¬other = name := fun h => e h.symm
    simp [e, e']

theorem contains_iff (h : Headers) (name : String) :
    h.contains name = true ↔ h.getAll name ≠ [] := by
  simp [contains, getAll, List.filter_eq_nil_iff]

end Headers

/-- The names that only mean something to one connection. -/
def hopByHopNames : List String :=
  ["connection", "keep-alive", "proxy-authenticate", "proxy-authorization", "te", "trailer",
    "transfer-encoding", "upgrade"]

def isHopByHop (name : String) : Bool := hopByHopNames.contains name

def Headers.stripHopByHop (h : Headers) : Headers := h.removeIf isHopByHop

def validatorNames : List String :=
  ["if-match", "if-none-match", "if-modified-since", "if-unmodified-since", "if-range"]

def Headers.stripValidators (h : Headers) : Headers := h.removeIf validatorNames.contains

end ReverseProxy.Http
