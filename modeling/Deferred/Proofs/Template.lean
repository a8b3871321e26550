import Deferred.Proofs.Outcome
import Deferred.Template

-- Filling a text template with a value that names cannot be looked up in.

set_option autoImplicit false

namespace Deferred

open Outcome

def Trouble.Unfilled : Trouble → Prop
  | .rejected _ | .missingKey => False
  | _ => True

namespace Template

theorem next_ensures {s : Supply} (plain : s.mapping = none) :
    Ensures (fun p => p.2.mapping = none) Trouble.Unfilled s.next := by
  unfold Supply.next
  split
  · exact plain
  · trivial

theorem named_ensures (cs : List Char) {s : Supply} (plain : s.mapping = none) :
    Ensures (fun p => p.2.mapping = none) Trouble.Unfilled (named cs s) := by
  unfold named
  split
  · rw [plain]
    trivial
  · exact plain

theorem width_ensures (f : Flags) (cs : List Char) {s : Supply} (plain : s.mapping = none) :
    Ensures (fun p => p.2.2.2.mapping = none) Trouble.Unfilled (width f cs s) := by
  unfold width
  split
  · refine (next_ensures plain).bind fun ⟨x, s⟩ kept => ?_
    dsimp only
    split
    · trivial
    · exact .ite (fun _ => trivial) fun _ => kept
  · exact .ite (fun _ => plain) fun _ => .ite (fun _ => trivial) fun _ => plain

theorem precision_ensures (cs : List Char) {s : Supply} (plain : s.mapping = none) :
    Ensures (fun p => p.2.2.mapping = none) Trouble.Unfilled (precision cs s) := by
  unfold precision
  split
  · refine (next_ensures plain).bind fun ⟨x, s⟩ kept => ?_
    dsimp only
    split
    · trivial
    · exact .ite (fun _ => trivial) fun _ => kept
  · exact .ite (fun _ => trivial) fun _ => plain
  · exact plain

theorem directive_ensures (cs : List Char) {s : Supply} (plain : s.mapping = none) :
    Ensures (fun p => p.2.2.mapping = none) Trouble.Unfilled (directive cs s) := by
  unfold directive
  refine (named_ensures cs plain).bind fun p plain => ?_
  refine (width_ensures _ _ plain).bind fun p plain => ?_
  refine (precision_ensures _ plain).bind fun p plain => ?_
  dsimp only
  split
  · trivial
  · exact plain

theorem whole_ensures (x : Item) : Ensures (fun _ => True) Trouble.Unfilled (whole x) := by
  unfold whole
  split
  · split <;> trivial
  · trivial
  · split
    · trivial
    · trivial
    · refine .ite (fun _ => trivial) fun _ => .ite (fun _ => trivial) fun _ => ?_
      split <;> trivial
  · split <;> trivial

theorem inTens_ensures (x : Item) : Ensures (fun _ => True) Trouble.Unfilled (inTens x) :=
  (whole_ensures x).bind fun _ _ => .ite (fun _ => trivial) fun _ => trivial

theorem float_ensures (x : Item) : Ensures (fun _ => True) Trouble.Unfilled (float x) := by
  unfold float
  split
  · trivial
  · split <;> trivial
  · split
    · split <;> trivial
    · trivial
    · trivial
  · split
    · split <;> trivial
    · trivial

theorem character_ensures (x : Item) : Ensures (fun _ => True) Trouble.Unfilled (character x) := by
  unfold character
  split
  · split <;> trivial
  · split
    · exact .ite (fun _ => trivial) fun _ => .ite (fun _ => trivial) fun _ => trivial
    · trivial

theorem written_ensures (x : Item) (s : String) :
    Ensures (fun _ => True) Trouble.Unfilled (written x s) :=
  .ite (fun _ => trivial) fun _ => trivial

variable [Host]

theorem lay_ensures (d : Directive) (signed : Bool) (body : List Char) :
    Ensures (fun _ => True) Trouble.Unfilled (d.lay signed body) := by
  unfold Directive.lay
  split
  split
  refine .ite (fun _ => trivial) fun _ => ?_
  exact .ite (fun _ => trivial) fun _ => .ite (fun _ => trivial) fun _ => trivial

theorem integer_ensures (d : Directive) (x : Item) :
    Ensures (fun _ => True) Trouble.Unfilled (d.integer x) := by
  unfold Directive.integer
  split
  all_goals first
    | exact (inTens_ensures x).bind fun n _ => lay_ensures d true _
    | split
      · exact lay_ensures d true _
      · trivial

theorem convert_ensures (d : Directive) (x : Item) :
    Ensures (fun _ => True) Trouble.Unfilled (d.convert x) := by
  unfold Directive.convert
  have shown (s : String) : Ensures (fun _ => True) Trouble.Unfilled
      (do d.lay false (d.cut (← written x s))) :=
    (written_ensures x s).bind fun cs _ => lay_ensures d false _
  refine .ite (fun _ => shown _) fun _ => .ite (fun _ => shown _) fun _ => .ite (fun _ => shown _) fun _ => ?_
  refine .ite (fun _ => integer_ensures d x) fun _ => ?_
  refine .ite (fun _ => (float_ensures x).bind fun y _ => lay_ensures d true _) fun _ => ?_
  exact .ite (fun _ => (character_ensures x).bind fun c _ => lay_ensures d false _) fun _ => trivial

theorem fill_ensures (fuel : Nat) (cs : List Char) {s : Supply} (plain : s.mapping = none) :
    Ensures (fun _ => True) Trouble.Unfilled (fill Directive.convert fuel cs s) := by
  -- along the template; what is kept is that the supply has nothing to look names up in
  fun_induction fill Directive.convert fuel cs s with
  | case1 => trivial
  | case2 => trivial
  | case3 => trivial
  | case4 => trivial
  | case5 fuel cs s ih =>
    refine (directive_ensures cs plain).bind fun ⟨d, cs, s⟩ plain => ?_
    refine .ite (fun _ => (ih cs s plain).bind fun out _ => trivial) fun _ => ?_
    refine (next_ensures plain).bind fun ⟨x, s⟩ plain => ?_
    exact (convert_ensures d x).bind fun piece _ => (ih cs s plain).bind fun out _ => trivial
  | case6 fuel c cs s _ ih => exact (ih plain).bind fun out _ => trivial

theorem fillText_ensures (t : String) {x : Item} (plain : isMapping x = false) :
    Ensures (fun v => v.kind = .str) Trouble.Unfilled (fillText t x) := by
  have supplied : (supply isMapping x).mapping = none := by simp [supply, plain]
  exact (fill_ensures _ _ supplied).bind fun out _ => rfl

end Template

end Deferred
