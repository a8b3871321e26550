import Deferred.Arithmetic.Numeric
import Deferred.Arithmetic.Sequence
import Deferred.Node
import Deferred.Template

-- Applying operators to values. An expression among the operands makes a node instead.

set_option autoImplicit false

namespace Deferred

def refusing {α : Type} (r : Except Rejection α) : Except Trouble α := r.mapError .rejected

namespace Clock

def ofInt (n : Int) : Item := .clock 0 (Fin.ofNat 12 (n % 12).toNat)

def apply (op : BinaryOperator) (a b : Item) : Except Trouble Item :=
  -- a clock takes part in arithmetic with integers: on the right of a sum or difference, on the
  -- left of a quotient or remainder, both rounded down
  match op, a, b with
  | .add, a, .clock _ h =>
    match a.int? with
    | some n => .ok (ofInt (n + h.val))
    | none => .error .unsupported
  | .sub, a, .clock _ h =>
    match a.int? with
    | some n => .ok (ofInt (n - h.val))
    | none => .error .unsupported
  | .div, .clock _ h, b =>
    match b.int? with
    | some n => if n = 0 then .error (.fault .integerDivision) else .ok (ofInt (Int.fdiv h.val n))
    | none => .error .unsupported
  | .mod, .clock _ h, b =>
    match b.int? with
    | some n => if n = 0 then .error (.fault .integerRemainder) else .ok (.int (Int.fmod h.val n))
    | none => .error .unsupported
  | _, _, _ => .error .unsupported

end Clock

namespace Item

def isClock : Item → Bool
  | .clock .. => true
  | _ => false

variable [Host]

def combineValues (op : BinaryOperator) (a b : Item) : Except Trouble Item :=
  match a.numeric?, b.numeric? with
  | some x, some y => x.apply op y
  | _, _ =>
    if a.isClock || b.isClock then Clock.apply op a b
    else
      match op with
      | .add => join a b
      | .sub => difference a b
      | .mul =>
        match a.int?, b.int? with
        | _, some n => times a n
        | some n, _ => times b n
        | _, _ => .error .unsupported
      | _ => .error .unsupported

def combine (op : BinaryOperator) (a b : Item) : Except Trouble Item :=
  match op, a with
  | .mod, .str t => Template.fillText t b
  | .mod, .bytes t => Template.fillBytes t b
  | op, a =>
    if a.isExpression || b.isExpression then refusing (Node.binary op a b) else combineValues op a b

def sum : Item → Item → Except Trouble Item
  | .meters _ kilo n, b => (sum n b).map (.meters 0 kilo)
  | a, b => combine .add a b

def operateBinary (op : BinaryOperator) (a b : Item) : Except Trouble Item :=
  match op with
  | .add => sum a b
  | op => combine op a b

def operateUnary (op : UnaryOperator) (x : Item) : Except Trouble Item :=
  if x.isExpression then refusing (Node.unary op x)
  else
    match x.numeric?, op, x with
    | some n, op, _ => n.applyUnary op
    | _, .negate, .clock _ h => .ok (Clock.ofInt (-h.val))
    | _, _, _ => .error .unsupported

end Item

variable [Host]

def applyUnary (op : UnaryOperator) (x : Item) : Except Failure Item :=
  (Item.operateUnary op x).mapError (Trouble.during (.unary op))

def applyBinary (op : BinaryOperator) (a b : Item) : Except Failure Item :=
  (Item.operateBinary op a b).mapError (Trouble.during (.binary op))

end Deferred
