import ReverseProxy.Routing.Decision

set_option autoImplicit false

namespace ReverseProxy.Routing

def Mutation.field : Mutation → String
  | .set name _ | .add name _ | .remove name => name

def Mutation.values (name : String) (vs : List Bytes) (m : Mutation) : List Bytes :=
  if m.field = name then
    match m with
    | .set _ value => [value]
    | .add _ value => vs ++ [value]
    | .remove _ => []
  else vs

/-- What changes make of the values of a field. -/
def changed (ms : List Mutation) (name : String) (vs : List Bytes) : List Bytes :=
  ms.foldl (Mutation.values name) vs

theorem getAll_apply (h : Http.Headers) (m : Mutation) (name : String) :
    (m.apply h).getAll name = m.values name (h.getAll name) := by
  unfold Mutation.apply Mutation.values
  cases m with
  | set other value =>
    by_cases hname : other = name <;> simp [Mutation.field, Http.Headers.getAll_insert, hname]
  | add other value =>
    by_cases hname : other = name <;> simp [Mutation.field, Http.Headers.getAll_append, hname]
  | remove other =>
    by_cases hname : other = name
    · simp [Mutation.field, Http.Headers.getAll_remove, hname]
    · have hname' : ¬name = other := fun heq => hname heq.symm
      simp [Mutation.field, Http.Headers.getAll_remove, hname, hname']

theorem getAll_applyMutations (h : Http.Headers) (ms : List Mutation) (name : String) :
    (applyMutations h ms).getAll name = changed ms name (h.getAll name) := by
  induction ms generalizing h with
  | nil => rfl
  | cons m ms ih =>
    have hrest := ih (m.apply h)
    rw [getAll_apply] at hrest
    exact hrest

theorem changed_append (ms ns : List Mutation) (name : String) (vs : List Bytes) :
    changed (ms ++ ns) name vs = changed ns name (changed ms name vs) := List.foldl_append

theorem changed_of_others {ms : List Mutation} {name : String}
    (hother : ∀ m ∈ ms, m.field ≠ name) (vs : List Bytes) : changed ms name vs = vs := by
  induction ms with
  | nil => rfl
  | cons m ms ih =>
    have hm : m.values name vs = vs := if_neg (hother m List.mem_cons_self)
    have hms := ih fun n hn => hother n (List.mem_cons_of_mem m hn)
    change changed ms name (m.values name vs) = vs
    rw [hm, hms]

theorem changed_add {before after : List Mutation} {name : String}
    (hother : ∀ m ∈ before ++ after, m.field ≠ name) (value : Bytes) (vs : List Bytes) :
    changed (before ++ .add name value :: after) name vs = vs ++ [value] := by
  have hadd : changed (.add name value :: after) name vs = changed after name (vs ++ [value]) :=
    congrArg (changed after name) (if_pos rfl)
  rw [changed_append, changed_of_others fun m hm => hother m (List.mem_append_left _ hm), hadd,
    changed_of_others fun m hm => hother m (List.mem_append_right _ hm)]

end ReverseProxy.Routing
