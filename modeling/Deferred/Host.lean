import Deferred.Literal.Phrase

-- What the library takes from its surroundings.

set_option autoImplicit false

namespace Deferred

class Host where
  -- the longest sequence that there is memory for
  room : Nat
  -- what a class counts as its instances and its subclasses, which need not fit together
  isInstance : Foreign → Item → Bool
  isSubclass : Foreign → Kind → Bool
  -- the methods that a class brings for an operator, with itself as the operand, or on either side
  offersUnary : Foreign → UnaryOperator → Bool
  offersLeft : Foreign → BinaryOperator → Bool
  offersRight : Foreign → BinaryOperator → Bool
  -- a line of text, with so many characters underlined from the start on
  illustration (text : String) (start width : Nat) (margin caption : String) : String
  parse : List Char → Option Literal.Phrase

variable [Host]

def Item.conforms (x : Item) : Kind → Bool
  | .foreign c => Host.isInstance c x
  | k => x.kind.within k

@[simp] theorem Item.conforms_any (x : Item) : x.conforms .any = true := Kind.within_any _

theorem Item.conforms_native (x : Item) {k : Kind} (native : k.isForeign = false) :
    x.conforms k = x.kind.within k := by
  cases k <;> first
    | rfl
    | cases native

omit [Host] in
theorem Item.kind_native (x : Item) : x.kind.isForeign = false := by
  cases x with
  | tuple f => cases f <;> rfl
  | meters s kilo => cases kilo <;> rfl
  | _ => rfl

@[simp] theorem Item.conforms_kind (x : Item) : x.conforms x.kind = true := by
  rw [x.conforms_native x.kind_native, Kind.within_self]

namespace Kind

def offersUnary (op : UnaryOperator) (k : Kind) : Bool :=
  match op, k with
  | op, foreign c => Host.offersUnary c op
  | _, celsius | _, placeholder | _, unaryNode | _, binaryNode => true
  | .negate, clock => true
  | _, _ => false

def offersLeft (op : BinaryOperator) (k : Kind) : Bool :=
  match op, k with
  | op, foreign c => Host.offersLeft c op
  | _, celsius | _, placeholder | _, unaryNode | _, binaryNode => true
  | .add, bytes | .mul, bytes | .mod, bytes => true
  | .add, list | .mul, list | .add, tuple | .mul, tuple | .add, pair | .mul, pair | .add, shape
  | .mul, shape => true
  | .sub, set => true
  | .add, meters | .add, kilometers => true
  | .div, clock | .mod, clock => true
  | _, _ => false

def offersRight (op : BinaryOperator) (k : Kind) : Bool :=
  match op, k with
  | op, foreign c => Host.offersRight c op
  | _, celsius | _, placeholder | _, unaryNode | _, binaryNode => true
  | .mul, bytes | .mod, bytes => true
  | .mul, list | .mul, tuple | .mul, pair | .mul, shape => true
  | .sub, set => true
  | .add, clock | .sub, clock => true
  | _, _ => false

end Kind

end Deferred
