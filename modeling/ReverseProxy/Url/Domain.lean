import ReverseProxy.Unicode.Composition
import ReverseProxy.Unicode.Direction
import ReverseProxy.Unicode.Joining
import ReverseProxy.Unicode.Mapping
import ReverseProxy.Url.Punycode

set_option autoImplicit false

/-!
# Domain names

Which texts can be domain names. The characters of a name are mapped and composed; every label
between its dots, decoded if it is encoded, must begin with a character of its own and use joiners
only where they show; a name with a character that is written from right to left must not mix
directions within a label. A name in ASCII without an encoded label only has to hold no character
with a meaning in a URL.
-/
namespace ReverseProxy.Url

def isAscii (c : Char) : Bool := c.toNat < 128

def isDenied (c : Char) : Bool :=
  c ≤ ' ' || c == '\x7f' ||
    ['%', '#', '/', ':', '<', '>', '?', '@', '[', '\\', ']', '^', '|'].contains c

def mapped? (cs : List Char) : Option (List Char) :=
  if cs.all isAscii then some (Chars.lower cs)
  else do
    let parts ← cs.mapM Unicode.mapped?
    return Unicode.composed parts.flatten

/-- Whether a joiner may stand between `before`, nearest first, and `after`: behind a mark that
suppresses a vowel, or, when it keeps letters apart, between letters that would join. -/
def joinerFits (keepsApart : Bool) (before after : List Char) : Bool :=
  match before with
  | [] => false
  | previous :: _ =>
    Unicode.combiningClass previous == 9 ||
      (keepsApart &&
        ((before.dropWhile Unicode.isTransparent).head?.any Unicode.joinsNext) &&
        ((after.dropWhile Unicode.isTransparent).head?.any Unicode.joinsPrevious))

def joinersFit (before : List Char) : List Char → Bool
  | [] => true
  | c :: cs =>
    (if c == '\u200C' then joinerFits true before cs
      else if c == '\u200D' then joinerFits false before cs
      else true) && joinersFit (c :: before) cs

def maxLabel : Nat := 1000

def maxEncoded : Nat := 2000

def isLabel (label : List Char) : Bool :=
  label.all isAscii ||
    (!(label.head?.any Unicode.isMark) && joinersFit [] label && label.length ≤ maxLabel)

/-- Whether decoding gave characters that stand for themselves, in composed form. -/
def isSettled (cs : List Char) : Bool :=
  cs.all (fun c => Unicode.mapped? c == some [c] && !isDenied c) && Unicode.composed cs == cs

def label? (label : List Char) : Option (List Char) :=
  let decoded := match Chars.stripStart? "xn--".toList label with
    | some encoded =>
      if encoded.all isAscii ∧ encoded.getLast? ≠ some '-' ∧ encoded ≠ [] ∧
          encoded.length ≤ maxEncoded then
        (Punycode.decode? encoded).filter isSettled
      else none
    | none => if label.any isDenied then none else some label
  decoded.filter isLabel

def directions (label : List Char) : List Unicode.Direction :=
  match label.map Unicode.direction with
  | [] => []
  | d :: ds => d :: (ds.reverse.dropWhile (· == .mark)).reverse

/-- A label is written in one direction from its first character on, and ends in a letter or digit;
from right to left it has digits of one kind. -/
def keepsDirection (label : List Char) : Bool :=
  let ds := directions label
  match ds.head? with
  | none => true
  | some .leftToRight =>
    ds.all (fun d => d != .rightToLeft && d != .arabicDigit) &&
      [some .leftToRight, some .europeanDigit].contains ds.getLast?
  | some .rightToLeft =>
    ds.all (· != .leftToRight) && !(ds.contains .europeanDigit && ds.contains .arabicDigit) &&
      [some .rightToLeft, some .europeanDigit, some .arabicDigit].contains ds.getLast?
  | some _ => false

/-- The name that is looked up for the text `cs`, labels as they are encoded, if it is one. -/
def domain? (cs : List Char) : Option (List Char) := do
  let name ← mapped? cs
  let labels ← (Chars.splitOn '.' name).mapM label?
  if labels.any (·.any Unicode.isRightToLeft) && !labels.all keepsDirection then none
  else return name

theorem isAscii_toLower (c : Char) (h : isAscii c = true) : isAscii c.toLower = true := by
  simp only [isAscii, decide_eq_true_eq] at h ⊢
  have := (by decide : ∀ n : Fin 128, (Char.ofNat n.val).toLower.toNat < 128) ⟨c.toNat, h⟩
  simpa using this

theorem label?_of_isAscii (label : List Char) (ha : ∀ c ∈ label, isAscii c = true)
    (hx : Chars.stripStart? "xn--".toList label = none) :
    label? label = if label.any isDenied then none else some label := by
  have : isLabel label = true := by simp [isLabel, List.all_eq_true.2 ha]
  simp only [label?, hx]
  split <;> simp [this]

theorem mapM_label? (labels : List (List Char)) (ha : ∀ l ∈ labels, ∀ c ∈ l, isAscii c = true)
    (hx : ∀ l ∈ labels, Chars.stripStart? "xn--".toList l = none) :
    labels.mapM label? = if labels.any (·.any isDenied) then none else some labels := by
  induction labels with
  | nil => rfl
  | cons l ls ih =>
    rw [List.mapM_cons, label?_of_isAscii l (ha l List.mem_cons_self) (hx l List.mem_cons_self),
      ih (fun m hm => ha m (List.mem_cons_of_mem _ hm)) fun m hm => hx m (List.mem_cons_of_mem _ hm)]
    cases h : l.any isDenied <;> cases h' : ls.any (·.any isDenied) <;> simp [h, h']

/-- In an ASCII name without an encoded label only denied characters are refused. -/
theorem domain?_of_isAscii (cs : List Char) (ha : ∀ c ∈ cs, isAscii c = true)
    (hx : ∀ l ∈ Chars.splitOn '.' (Chars.lower cs), Chars.stripStart? "xn--".toList l = none) :
    domain? cs =
      if (Chars.splitOn '.' (Chars.lower cs)).any (·.any isDenied) then none
      else some (Chars.lower cs) := by
  have hl : ∀ l ∈ Chars.splitOn '.' (Chars.lower cs), ∀ c ∈ l, isAscii c = true := by
    intro l hm c hc
    obtain ⟨d, hd, rfl⟩ := List.mem_map.1 (Chars.mem_of_mem_splitOn _ _ _ _ hm hc)
    exact isAscii_toLower d (ha d hd)
  have hr : (Chars.splitOn '.' (Chars.lower cs)).any (·.any Unicode.isRightToLeft) = false := by
    simp only [List.any_eq_false]
    intro l hm
    simp only [List.any_eq_true, not_exists, not_and]
    intro c hc
    have := hl l hm c hc
    simp only [isAscii, decide_eq_true_eq] at this
    simp [Unicode.isRightToLeft_of_ascii c this]
  simp only [domain?, mapped?, List.all_eq_true.2 ha, if_true, Option.bind_eq_bind,
    Option.bind_some, mapM_label? _ hl hx]
  split
  · rfl
  · simp only [Option.bind_some, hr, Bool.false_and, Bool.false_eq_true, if_false]
    rfl

end ReverseProxy.Url
