import Deferred.Algebra

-- Making nodes. A node is refused at once if no value could come of it.

set_option autoImplicit false

namespace Deferred

inductive Declared where
  | kind (k : Kind)
  | item (x : Item)
deriving Repr

namespace Node

def placeholder (name : Item) (declared : Declared) : Except Rejection Item :=
  match name with
  | .str s =>
    if s.isEmpty then .error (.unnamedVariable name)
    else
      match declared with
      | .kind k => .ok (.placeholder 0 s k)
      | .item x => .error (.variableKind s x)
  | _ => .error (.unnamedVariable name)

variable [Host]

def unary (op : UnaryOperator) (x : Item) : Except Rejection Item :=
  if x.isExpression then do
    let k ← Algebra.unaryResult op x.valueKind
    .ok (.unary 0 op x k)
  else .error (.unaryOperand op x)

def binary (op : BinaryOperator) (l r : Item) : Except Rejection Item :=
  if l.isExpression || r.isExpression then do
    let k ← Algebra.binaryResult op l.valueKind r.valueKind
    .ok (.binary 0 op l r k)
  else .error (.binaryOperands op)

end Node

end Deferred
