import Deferred.Node
import Deferred.Proofs.Occurrence
import Deferred.Proofs.Outcome

-- Items whose nodes were all made by the constructors.

set_option autoImplicit false

namespace Deferred

open Outcome

variable [Host]

namespace Item

/-- Every node that is ever entered is what its constructor makes, whatever its serial. -/
inductive Formed : Item → Prop
  | literal {x : Item} (h : x.isLiteral) : Formed x
  | tuple {f : TupleForm} {xs : List Item} (parts : ∀ x ∈ xs, Formed x) : Formed (.tuple f xs)
  | placeholder {s : Nat} {n : String} {k : Kind}
      (made : Node.placeholder (.str n) (.kind k) = .ok (.placeholder 0 n k)) :
      Formed (.placeholder s n k)
  | unary {s : Nat} {op : UnaryOperator} {x : Item} {k : Kind} (operand : Formed x)
      (made : Node.unary op x = .ok (.unary 0 op x k)) : Formed (.unary s op x k)
  | binary {s : Nat} {op : BinaryOperator} {l r : Item} {k : Kind} (left : Formed l)
      (right : Formed r) (made : Node.binary op l r = .ok (.binary 0 op l r k)) :
      Formed (.binary s op l r k)

end Item

namespace Node

open Item

theorem unary_ok {op : UnaryOperator} {x y : Item} (h : unary op x = .ok y) :
    ∃ k, Algebra.unaryResult op x.valueKind = .ok k ∧ y = .unary 0 op x k := by
  unfold unary at h
  split at h
  · obtain ⟨k, result, made⟩ := bind_ok.1 h
    cases made
    exact ⟨k, result, rfl⟩
  · cases h

theorem binary_ok {op : BinaryOperator} {l r y : Item} (h : binary op l r = .ok y) :
    ∃ k, Algebra.binaryResult op l.valueKind r.valueKind = .ok k ∧ y = .binary 0 op l r k := by
  unfold binary at h
  split at h
  · obtain ⟨k, result, made⟩ := bind_ok.1 h
    cases made
    exact ⟨k, result, rfl⟩
  · cases h

theorem placeholder_formed {name y : Item} {declared : Declared}
    (h : placeholder name declared = .ok y) : Formed y := by
  have made := h
  unfold placeholder at made
  split at made
  · split at made
    · cases made
    · split at made
      · cases made
        exact .placeholder h
      · cases made
  · cases made

theorem unary_formed {op : UnaryOperator} {x y : Item} (operand : Formed x)
    (h : unary op x = .ok y) : Formed y := by
  obtain ⟨k, -, rfl⟩ := unary_ok h
  exact .unary operand h

theorem binary_formed {op : BinaryOperator} {l r y : Item} (left : Formed l) (right : Formed r)
    (h : binary op l r = .ok y) : Formed y := by
  obtain ⟨k, -, rfl⟩ := binary_ok h
  exact .binary left right h

end Node

namespace Algebra

theorem unaryResult_known {op : UnaryOperator} {k r : Kind} (h : unaryResult op k = .ok r)
    (known : r ≠ .any) : k.isWellKnown ∧ knownUnary? op k = some r := by
  unfold unaryResult at h
  split at h
  · cases h; exact absurd rfl known
  · split at h
    next wellKnown =>
      split at h
      next result => cases h; exact ⟨wellKnown, result⟩
      next => cases h
    next =>
      split at h
      · cases h; exact absurd rfl known
      · cases h

theorem binaryResult_known {op : BinaryOperator} {k l r : Kind} (h : binaryResult op k l = .ok r)
    (known : r ≠ .any) : (k.isWellKnown ∧ l.isWellKnown) ∧ knownBinary? op k l = some r := by
  unfold binaryResult at h
  split at h
  · cases h; exact absurd rfl known
  · split at h
    next wellKnown =>
      split at h
      next result => cases h; exact ⟨by simpa using wellKnown, result⟩
      next => cases h
    next =>
      split at h
      · cases h; exact absurd rfl known
      · cases h

omit [Host] in
theorem knownUnary?_wellKnown {op : UnaryOperator} {k r : Kind} (known : k.isWellKnown)
    (h : knownUnary? op k = some r) : r.isWellKnown := by
  cases k <;> first
    | (cases op <;> cases h <;> rfl)
    | cases known

omit [Host] in
theorem meeting?_wellKnown {k l r : Kind} (h : meeting? k l = some r) : r.isWellKnown := by
  unfold meeting? at h
  split at h <;> cases h <;> rfl

omit [Host] in
theorem knownBinary?_wellKnown {op : BinaryOperator} {k l r : Kind} (h : knownBinary? op k l = some r) :
    r.isWellKnown := by
  unfold knownBinary? at h
  split at h
  all_goals first
    | exact meeting?_wellKnown h
    | exact meeting?_wellKnown (Option.filter_eq_some_iff.1 h).1
    | (cases h; rfl)

theorem unaryResult_native {op : UnaryOperator} {k r : Kind} (h : unaryResult op k = .ok r) :
    r.isForeign = false := by
  by_cases known : r = .any
  · rw [known]; rfl
  · obtain ⟨wellKnown, result⟩ := unaryResult_known h known
    exact Kind.native_of_known (knownUnary?_wellKnown wellKnown result)

theorem binaryResult_native {op : BinaryOperator} {k l r : Kind} (h : binaryResult op k l = .ok r) :
    r.isForeign = false := by
  by_cases known : r = .any
  · rw [known]; rfl
  · exact Kind.native_of_known (knownBinary?_wellKnown (binaryResult_known h known).2)

end Algebra

namespace Item.Formed

theorem operand {s : Nat} {op : UnaryOperator} {x : Item} {k : Kind}
    (formed : Formed (.unary s op x k)) : Formed x := by
  cases formed with
  | literal h => cases h
  | unary operand made => exact operand

theorem operand_expression {s : Nat} {op : UnaryOperator} {x : Item} {k : Kind}
    (formed : Formed (.unary s op x k)) : x.isExpression := by
  cases formed with
  | literal h => cases h
  | unary operand made =>
    unfold Node.unary at made
    split at made
    next expression => exact expression
    next => cases made

theorem part {f : TupleForm} {xs : List Item} (formed : Formed (.tuple f xs)) : ∀ x ∈ xs, Formed x := by
  cases formed with
  | literal h => cases h
  | tuple parts => exact parts

theorem unary_kind {s : Nat} {op : UnaryOperator} {x : Item} {k : Kind}
    (formed : Formed (.unary s op x k)) : Algebra.unaryResult op x.valueKind = .ok k := by
  cases formed with
  | literal h => cases h
  | unary operand made =>
    obtain ⟨l, result, same⟩ := Node.unary_ok made
    cases same
    exact result

theorem binary_kind {s : Nat} {op : BinaryOperator} {l r : Item} {k : Kind}
    (formed : Formed (.binary s op l r k)) :
    Algebra.binaryResult op l.valueKind r.valueKind = .ok k := by
  cases formed with
  | literal h => cases h
  | binary left right made =>
    obtain ⟨m, result, same⟩ := Node.binary_ok made
    cases same
    exact result

theorem operands {s : Nat} {op : BinaryOperator} {l r : Item} {k : Kind}
    (formed : Formed (.binary s op l r k)) : Formed l ∧ Formed r := by
  cases formed with
  | literal h => cases h
  | binary left right made => exact ⟨left, right⟩

theorem unary_known {s : Nat} {op : UnaryOperator} {x : Item} {k : Kind}
    (formed : Formed (.unary s op x k)) (known : k ≠ .any) :
    x.valueKind.isWellKnown ∧ Algebra.knownUnary? op x.valueKind = some k :=
  Algebra.unaryResult_known formed.unary_kind known

theorem binary_known {s : Nat} {op : BinaryOperator} {l r : Item} {k : Kind}
    (formed : Formed (.binary s op l r k)) (known : k ≠ .any) :
    (l.valueKind.isWellKnown ∧ r.valueKind.isWellKnown) ∧
      Algebra.knownBinary? op l.valueKind r.valueKind = some k :=
  Algebra.binaryResult_known formed.binary_kind known

-- an operator gives a value of a kind that is known in full, or one of which nothing is known
theorem native {x : Item} (formed : x.Formed) (composite : x.isComposite) :
    x.valueKind.isForeign = false := by
  cases x with
  | unary s op x k => exact Algebra.unaryResult_native formed.unary_kind
  | binary s op l r k => exact Algebra.binaryResult_native formed.binary_kind
  | _ => cases composite

end Item.Formed

end Deferred
