import Deferred.Proofs.Flavor

-- What becomes of a structured literal: evaluation goes through its parts at every level.

set_option autoImplicit false

namespace Deferred

open Outcome

theorem TupleForm.kind_rebuilt (f : TupleForm) : f.rebuilt.kind = if f = .pair then .tuple else f.kind := by
  cases f <;> rfl

namespace Item

-- What a path leads to that enters tuples alone. Each step says which part is entered.
def element? : Item → List Nat → Option Item
  | x, [] => some x
  | tuple _ xs, i :: path => xs[i]?.bind fun y => y.element? path
  | _, _ :: _ => Option.none

end Item

section

variable [Host]

theorem evaluate_tuple {f : TupleForm} {xs : List Item} {v : Item} {d : DynamicEnvironment} :
    evaluate (.tuple f xs) (.dynamic d) = .ok v ↔
      ∃ vs, v = .tuple f.rebuilt vs ∧ List.Forall₂ (fun x w => evaluate x (.dynamic d) = .ok w) xs vs := by
  simp only [evaluate_dynamic, evaluateWith_tuple, bind_ok, mapM_ok]
  constructor
  · rintro ⟨vs, parts, ⟨⟩⟩
    exact ⟨vs, rfl, parts⟩
  · rintro ⟨vs, rfl, parts⟩
    exact ⟨vs, parts, rfl⟩

theorem evaluate_element {d : DynamicEnvironment} {x y v : Item} {path : List Nat}
    (found : x.element? path = some y) (done : evaluate x (.dynamic d) = .ok v) :
    ∃ w, v.element? path = some w ∧ evaluate y (.dynamic d) = .ok w := by
  induction path generalizing x v with
  | nil =>
    cases found
    exact ⟨v, rfl, done⟩
  | cons i path ih =>
    cases x with
    | tuple f xs =>
      obtain ⟨vs, rfl, parts⟩ := evaluate_tuple.1 done
      obtain ⟨z, entered, rest⟩ := Option.bind_eq_some_iff.1 found
      obtain ⟨within, rfl⟩ := List.getElem?_eq_some_iff.1 entered
      have within' : i < vs.length := parts.length_eq ▸ within
      obtain ⟨w, reached, value⟩ := ih rest (parts.get within within')
      refine ⟨w, ?_, value⟩
      simpa [Item.element?, within'] using reached
    | _ => cases found

/-- At every level of a nested tuple that has a value, each part comes to its own value in its own place. The
kind of the tuple is the one that it counts for, unless it is a bare refinement of tuples. -/
theorem evaluation_keeps_shape {f g : TupleForm} {xs ys : List Item} {v : Item} {d : DynamicEnvironment}
    {path : List Nat} (done : evaluate (.tuple f xs) (.dynamic d) = .ok v)
    (found : (Item.tuple f xs).element? path = some (.tuple g ys)) :
    ∃ ws, v.element? path = some (.tuple g.rebuilt ws) ∧ ws.length = ys.length ∧
      (∀ i (within : i < ys.length) (within' : i < ws.length),
        evaluate ys[i] (.dynamic d) = .ok ws[i]) ∧
      ((Item.tuple g.rebuilt ws).kind = (Item.tuple g ys).valueKind ↔ g ≠ .pair) ∧
      (g = .pair → (Item.tuple g.rebuilt ws).kind = .tuple) := by
  obtain ⟨w, reached, value⟩ := evaluate_element found done
  obtain ⟨ws, rfl, parts⟩ := evaluate_tuple.1 value
  have kind : (Item.tuple g.rebuilt ws).kind = if g = .pair then .tuple else (Item.tuple g ys).valueKind :=
    g.kind_rebuilt
  refine ⟨ws, reached, parts.length_eq.symm, fun i within within' => parts.get within within', ?_, fun bare => ?_⟩
  · rw [kind]
    cases g <;> simp [Item.valueKind, Item.kind, TupleForm.kind]
  · rw [kind, if_pos bare]

end

theorem evaluation_keeps_shape_nested :
    let pair : Item := .tuple .pair [.placeholder 1 "x" .int]
    let x : Item := .tuple .plain [.int 1, .tuple .shape [pair, .placeholder 1 "x" .int]]
    let d : DynamicEnvironment := ⟨[("x", .bool true)]⟩
    let v : Item := .tuple .plain [.int 1, .tuple .shape [.tuple .plain [.bool true], .bool true]]
    evaluate x (.dynamic d) = .ok v ∧
      x.element? [1] = some (.tuple .shape [pair, .placeholder 1 "x" .int]) ∧
      x.element? [1, 0] = some pair ∧
      (∃ ws, v.element? [1] = some (.tuple .shape ws) ∧ (Item.tuple .shape ws).kind = .shape) ∧
      ∃ ws, v.element? [1, 0] = some (.tuple .plain ws) ∧ (Item.tuple .plain ws).kind = .tuple := by
  intro pair x d v
  have done : evaluate x (.dynamic d) = .ok v := rfl
  have record : x.element? [1] = some (.tuple .shape [pair, .placeholder 1 "x" .int]) := rfl
  have bare : x.element? [1, 0] = some pair := rfl
  obtain ⟨ws, reached, -, -, kept, -⟩ := evaluation_keeps_shape done record
  obtain ⟨us, reached', -, -, -, plain⟩ := evaluation_keeps_shape done bare
  exact ⟨done, record, bare, ⟨ws, reached, kept.2 (by decide)⟩, us, reached', plain rfl⟩

/-- A bare refinement of tuples counts for its own kind, and yet it evaluates to a plain tuple. -/
theorem evaluation_loses_kind :
    let x : Item := .tuple .pair [.placeholder 1 "x" .int, .int 1]
    let v : Item := .tuple .plain [.int 5, .int 1]
    evaluate x (.dynamic ⟨[("x", .int 5)]⟩) = .ok v ∧ x.valueKind = .pair ∧ v.kind = .tuple :=
  ⟨rfl, rfl, rfl⟩

end Deferred
