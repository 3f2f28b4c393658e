import ReverseProxy.Gate
import ReverseProxy.Proofs.Server.History

set_option autoImplicit false

namespace ReverseProxy.Gate
open Request

abbrev Moment := Gate × Event

def Move.ends? : Move → Option Visit
  | .enter v | .expire v none | .leave v none => some v
  | _ => none

def entered? (g : Gate) (v : Visit) : Option Server.Event :=
  (opened? g.unpack? v.request).map fun r => .request v.connection r v.fresh

/-- What the server sees of a move. -/
def served? (g : Gate) : Move → Option Server.Event
  | .enter v => g.entered? v
  | .expire _ id? | .leave _ id? => id?.map (.forward · .clientLeaves)
  | .pass e => some e
  | .stay => none

/-- How a gate comes to a move. -/
inductive Moves (g : Gate) (e : Event) : Move → Prop where
  | comes (v : Visit) (newcomer : g.newcomers e = [v]) (room : g.hasRoomFor v = true) :
    Moves g e (.enter v)
  | turns (pattern? : Option Server.Pattern) (v : Visit) (next : g.next? pattern? = some v)
      (place : g.hasPlace pattern? = true) : Moves g e (.enter v)
  | expires (number : Nat) (v : Visit) (id? : Option Nat)
      (unanswered : g.unanswered? number = some (v, id?)) (late : g.isLate v = true) :
    Moves g e (.expire v id?)
  | leaves (number : Nat) (v : Visit) (id? : Option Nat)
      (unanswered : g.unanswered? number = some (v, id?)) : Moves g e (.leave v id?)
  | passes (se : Server.Event) : Moves g e (.pass se)
  | stays : Moves g e .stay

def history (g : Gate) : List Event → List Moment
  | [] => []
  | e :: es => (g, e) :: (g.step e).2.history es

def servedIn (H : List Moment) : List Server.Event :=
  H.flatMap fun m => (m.1.served? (m.1.move m.2)).toList

/-- What a move leaves of a gate. -/
structure Frame (g : Gate) (m : Move) (after : Gate) : Prop where
  server : after.server = g.server.run (g.served? m).toList
  waiting : after.waiting = g.waiting.filter fun w => m.ends?.all fun v => w.number != v.number
  nextNumber : after.nextNumber = g.nextNumber
  unpack? : after.unpack? = g.unpack?
  places : after.places = g.places

section
variable {g u : Gate} {e : Event} {es : List Event} {v : Visit} {r : Incoming}

theorem moves_move (g : Gate) (e : Event) : g.Moves e (g.move e) := by
  cases e with
  | request connection r fresh =>
    simp only [move]
    split
    · next hroom => exact .comes _ rfl hroom
    · exact .stays
  | turn pattern? =>
    simp only [move]
    split
    · next v hnext =>
      split
      · next hplace => exact .turns pattern? v hnext hplace
      · exact .stays
    · exact .stays
  | deadline number =>
    simp only [move]
    split
    · next v id? hopen =>
      split
      · next hlate => exact .expires number v id? hopen hlate
      · exact .stays
    · exact .stays
  | leaves number =>
    simp only [move]
    split
    · next v id? hopen => exact .leaves number v id? hopen
    · exact .stays
  | forward | reload | timePasses | clockSet | sweep => exact .passes _

theorem enter_of_opened (h : opened? g.unpack? v.request = some r) :
    (g.enter v).1 = (g.server.step (.request v.connection r v.fresh)).1 := by
  unfold enter
  dsimp only [forget]
  rw [h]
  rfl

theorem enter_of_sealed (h : opened? g.unpack? v.request = none) :
    g.enter v = (v.reply unsupported, g.forget v.number) := by
  unfold enter
  dsimp only [forget]
  rw [h]

theorem pass_snd (g : Gate) (e : Server.Event) :
    (g.pass e).2 = { g with server := (g.server.step e).2 } := by
  unfold pass
  cases g.server.step e
  rfl

theorem frame_forget {m : Move} (h : m.ends? = some v) (hunseen : g.served? m = none) :
    g.Frame m (g.forget v.number) where
  server := by rw [hunseen]; rfl
  waiting := by rw [h]; rfl
  nextNumber := rfl
  unpack? := rfl
  places := rfl

theorem frame_pass {m : Move} (se : Server.Event) (h : m.ends? = none)
    (hseen : g.served? m = some se) : g.Frame m (g.pass se).2 := by
  rw [pass_snd]
  exact ⟨by rw [hseen]; rfl, by rw [h]; exact (List.filter_true _).symm, rfl, rfl, rfl⟩

theorem frame_enter (g : Gate) (v : Visit) : g.Frame (.enter v) (g.enter v).2 := by
  cases hopen : opened? g.unpack? v.request with
  | none =>
    rw [enter_of_sealed hopen]
    exact frame_forget rfl (by simp only [served?, entered?, hopen, Option.map_none])
  | some r =>
    have hseen : g.served? (.enter v) = some (.request v.connection r v.fresh) := by
      simp only [served?, entered?, hopen, Option.map_some]
    have henter : (g.enter v).2 = { g.forget v.number with
        server := (g.server.step (.request v.connection r v.fresh)).2
        inside := g.inside ++ [(v, g.server.proxy.nextId)] } := by
      unfold enter pass
      dsimp only [forget]
      rw [hopen]
    rw [henter]
    exact ⟨by rw [hseen]; rfl, rfl, rfl, rfl, rfl⟩

theorem frame_perform (g : Gate) (m : Move) : g.Frame m (g.perform m).2 := by
  cases m with
  | enter v => exact g.frame_enter v
  | expire v id? | leave v id? =>
    cases id? with
    | none => exact frame_forget rfl rfl
    | some id => exact frame_pass (.forward id .clientLeaves) rfl rfl
  | pass e => exact frame_pass e rfl rfl
  | stay => exact ⟨rfl, (List.filter_true _).symm, rfl, rfl, rfl⟩

theorem frame_step (g : Gate) (e : Event) : (g.join e).Frame (g.move e) (g.step e).2 :=
  let frame := (g.join e).frame_perform (g.move e)
  ⟨frame.server, frame.waiting, frame.nextNumber, frame.unpack?, frame.places⟩

theorem server_step (g : Gate) (e : Event) :
    (g.step e).2.server = g.server.run (g.served? (g.move e)).toList :=
  (g.frame_step e).server

/-- The server inside sees a run of its own. -/
theorem server_run (g : Gate) (es : List Event) :
    (g.run es).server = g.server.run (servedIn (g.history es)) := by
  induction es generalizing g with
  | nil => rfl
  | cons e es ih =>
    have hrest := ih (g.step e).2
    rw [server_step] at hrest
    have hserved : servedIn (g.history (e :: es)) =
        (g.served? (g.move e)).toList ++ servedIn ((g.step e).2.history es) := List.flatMap_cons
    rw [hserved]
    exact hrest.trans List.foldl_append.symm

theorem mem_server_history {se : Server.Event} (hm : (u, e) ∈ g.history es)
    (hseen : u.served? (u.move e) = some se) :
    (u.server, se) ∈ g.server.history (servedIn (g.history es)) := by
  induction es generalizing g with
  | nil => exact (List.not_mem_nil hm).elim
  | cons e' es ih =>
    change (u.server, se) ∈ g.server.history
      ((g.served? (g.move e')).toList ++ servedIn ((g.step e').2.history es))
    rcases List.mem_cons.1 hm with heq | hm
    · cases heq
      rw [hseen]
      exact List.mem_cons_self
    · have hrest := ih hm
      rw [server_step] at hrest
      cases hfirst : g.served? (g.move e') with
      | none =>
        rw [hfirst] at hrest
        exact hrest
      | some se' =>
        rw [hfirst] at hrest
        exact List.mem_cons_of_mem _ hrest

theorem places_run (g : Gate) (es : List Event) : (g.run es).places = g.places := by
  induction es generalizing g with
  | nil => rfl
  | cons e es ih => exact (ih (g.step e).2).trans (g.frame_step e).places

theorem unpack?_of_mem (hm : (u, e) ∈ g.history es) : u.unpack? = g.unpack? := by
  induction es generalizing g with
  | nil => exact (List.not_mem_nil hm).elim
  | cons e' es ih =>
    rcases List.mem_cons.1 hm with heq | hm
    · cases heq
      rfl
    · exact (ih hm).trans (g.frame_step e').unpack?

end
end ReverseProxy.Gate
