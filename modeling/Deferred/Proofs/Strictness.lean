import Deferred.Evaluation
import Deferred.Proofs.Occurrence
import Deferred.Proofs.Outcome

-- Evaluation looks up every variable that occurs, and nothing else.

set_option autoImplicit false

namespace Deferred

open Outcome

variable [Host]

theorem evaluateAll_eq (look : Lookup) (xs : List Item) :
    evaluateAll look xs = xs.mapM (evaluateWith look) := by
  induction xs with
  | nil => rfl
  | cons x xs ih => simp only [evaluateAll, ih, List.mapM_cons]; rfl

@[simp] theorem evaluateWith_literal (look : Lookup) {x : Item} (h : x.isLiteral) :
    evaluateWith look x = .ok x := by
  cases x <;> simp_all [Item.isLiteral, evaluateWith]

theorem evaluateWith_tuple (look : Lookup) (f : TupleForm) (xs : List Item) :
    evaluateWith look (.tuple f xs) =
      xs.mapM (evaluateWith look) >>= fun vs => .ok (.tuple f.rebuilt vs) := by
  rw [evaluateWith, evaluateAll_eq]

theorem evaluateWith_congr {look peek : Lookup} (x : Item)
    (agree : ∀ v ∈ x.declarations, look v.1 v.2 = peek v.1 v.2) :
    evaluateWith look x = evaluateWith peek x := by
  induction x using Item.entering with
  | literal x h => simp [h]
  | tuple f xs ih =>
    rw [Item.declarations_tuple] at agree
    have each : ∀ x ∈ xs, evaluateWith look x = evaluateWith peek x := fun x member =>
      ih x member fun v occurs => agree v (List.mem_flatMap.2 ⟨x, member, occurs⟩)
    rw [evaluateWith_tuple, evaluateWith_tuple, mapM_congr each]
  | placeholder s n k => exact agree (n, k) (by simp)
  | unary s op x k ih =>
    rw [Item.declarations_unary] at agree
    rw [evaluateWith, evaluateWith, ih agree]
  | binary s op l r k left right =>
    rw [Item.declarations_binary] at agree
    rw [evaluateWith, evaluateWith, left fun v occurs => agree v (List.mem_append_left _ occurs),
      right fun v occurs => agree v (List.mem_append_right _ occurs)]

theorem evaluateWith_strict {look : Lookup} {x w : Item} (done : evaluateWith look x = .ok w) :
    ∀ v ∈ x.declarations, ∃ u, look v.1 v.2 = .ok u := by
  induction x using Item.entering generalizing w with
  | literal x h => simp [h]
  | tuple f xs ih =>
    rw [evaluateWith_tuple] at done
    obtain ⟨vs, parts, -⟩ := bind_ok.1 done
    intro v occurs
    rw [Item.declarations_tuple] at occurs
    obtain ⟨x, member, occurs⟩ := List.mem_flatMap.1 occurs
    obtain ⟨u, part⟩ := mapM_each parts x member
    exact ih x member part v occurs
  | placeholder s n k =>
    intro v occurs
    obtain rfl : v = (n, k) := by simpa using occurs
    exact ⟨w, done⟩
  | unary s op x k ih =>
    obtain ⟨u, operand, -⟩ := bind_ok.1 done
    rw [Item.declarations_unary]
    exact ih operand
  | binary s op l r k left right =>
    obtain ⟨u, first, rest⟩ := bind_ok.1 done
    obtain ⟨v, second, -⟩ := bind_ok.1 rest
    intro v occurs
    rw [Item.declarations_binary] at occurs
    rcases List.mem_append.1 occurs with occurs | occurs
    · exact left first v occurs
    · exact right second v occurs

/-- The operands of an operator node have values to which the operator cannot be applied. -/
inductive Misapplied (look : Lookup) : Item → Failure → Prop
  | unary {s : Nat} {op : UnaryOperator} {x v : Item} {k : Kind} {f : Failure}
      (operand : evaluateWith look x = .ok v) (failed : applyUnary op v = .error f) :
      Misapplied look (.unary s op x k) f
  | binary {s : Nat} {op : BinaryOperator} {l r v w : Item} {k : Kind} {f : Failure}
      (left : evaluateWith look l = .ok v) (right : evaluateWith look r = .ok w)
      (failed : applyBinary op v w = .error f) :
      Misapplied look (.binary s op l r k) f

end Deferred
