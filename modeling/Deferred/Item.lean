import Deferred.Kind
import Deferred.Number.ComplexFloat
import Deferred.Number.Decimal

-- Items: literals, structured literals, and the nodes of deferred expressions.

set_option autoImplicit false

namespace Deferred

/-- A plain tuple, a bare refinement of it, or a record with named fields. -/
inductive TupleForm where
  | plain
  | pair
  | shape
deriving DecidableEq, Repr, Inhabited

/-- Nodes and measures have an identity, their serial. Equality of nodes does not look at it. -/
inductive Item where
  | none
  | ellipsis
  | bool (b : Bool)
  | int (n : Int)
  -- a degree: an integer in all but its kind
  | celsius (n : Int)
  | float (x : Binary64)
  | complex (z : ComplexFloat)
  | fraction (q : Rat)
  | decimal (d : Decimal)
  | str (s : String)
  | bytes (bs : List UInt8)
  | tuple (form : TupleForm) (xs : List Item)
  | list (xs : List Item)
  -- keys and values, in order of insertion
  | dict (keys values : List Item)
  | set (xs : List Item)
  | meters (serial : Nat) (kilo : Bool) (n : Item)
  | clock (serial : Nat) (hour : Fin 12)
  | placeholder (serial : Nat) (name : String) (kind : Kind)
  | unary (serial : Nat) (op : UnaryOperator) (x : Item) (kind : Kind)
  | binary (serial : Nat) (op : BinaryOperator) (l r : Item) (kind : Kind)
deriving Repr, Inhabited

namespace TupleForm

def kind : TupleForm → Kind
  | plain => .tuple
  | pair => .pair
  | shape => .shape

def rebuilt : TupleForm → TupleForm
  -- the form of a rebuilt tuple: only records know how to remake themselves
  | shape => .shape
  | _ => .plain

end TupleForm

namespace Item

def isExpression : Item → Bool
  | placeholder .. | unary .. | binary .. => true
  | _ => false

def isComposite : Item → Bool
  | unary .. | binary .. => true
  | _ => false

def kind : Item → Kind
  | none => .none
  | ellipsis => .ellipsis
  | bool _ => .bool
  | int _ => .int
  | celsius _ => .celsius
  | float _ => .float
  | complex _ => .complex
  | fraction _ => .fraction
  | decimal _ => .decimal
  | str _ => .str
  | bytes _ => .bytes
  | tuple f _ => f.kind
  | list _ => .list
  | dict .. => .dict
  | set _ => .set
  | meters _ kilo _ => if kilo then .kilometers else .meters
  | clock .. => .clock
  | placeholder .. => .placeholder
  | unary .. => .unaryNode
  | binary .. => .binaryNode

def valueKind : Item → Kind
  | placeholder _ _ k | unary _ _ _ k | binary _ _ _ _ k => k
  | x => x.kind

def int? : Item → Option Int
  | bool b => some (if b then 1 else 0)
  | int n | celsius n => some n
  | _ => Option.none

end Item

end Deferred
