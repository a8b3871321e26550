import Deferred.Proofs.Preservation

-- What a prepared expression can still fail with.

set_option autoImplicit false

namespace Deferred

open Outcome

section

variable [Host]

theorem Misapplied.isComposite {look : Lookup} {n : Item} {f : Failure}
    (stuck : Misapplied look n f) : n.isComposite := by
  cases stuck <;> rfl

theorem Misapplied.expected {look : Lookup} {n : Item} {f : Failure} (formed : n.Formed)
    (conforming : Conforming look n) (known : n.valueKind ≠ .any) (stuck : Misapplied look n f) :
    f.ExpectedAt n := by
  cases stuck with
  | unary operand failed =>
    have fits := (formed.operand.value_kind conforming.operand operand).1
    exact (formed.unary_applies known fits).failure failed
  | binary left right failed =>
    have fits := (formed.operands.1.value_kind conforming.operands.1 left).1
    have fits' := (formed.operands.2.value_kind conforming.operands.2 right).1
    exact (formed.binary_applies known fits fits').failure failed

end

end Deferred
