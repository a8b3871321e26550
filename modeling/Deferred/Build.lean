import Deferred.Arithmetic.Apply
import Deferred.Item.Equality

-- Building expressions from glyphs and names as they are given, right or wrong.

set_option autoImplicit false

namespace Deferred.Build

def glyph? (g : Item) : Except Failure (Option String) :=
  if g.hash?.isNone then .error .unsupported
  else match g with
    | .str s => .ok (some s)
    | _ => .ok none

def refuse {α : Type} (r : Except Rejection α) : Except Failure α := r.mapError .rejected

variable [Host]

def unaryNode (g x : Item) : Except Failure Item := do
  let s ← glyph? g
  match s.bind UnaryOperator.ofGlyph? with
  | some op => refuse (Node.unary op x)
  | none => .error (.rejected (.unknownUnary g))

def binaryNode (g l r : Item) : Except Failure Item := do
  let s ← glyph? g
  match s.bind BinaryOperator.ofGlyph? with
  | some op => refuse (Node.binary op l r)
  | none => .error (.rejected (.unknownBinary g))

def computeUnary (g x : Item) : Except Failure Item := do
  let s ← glyph? g
  match s.bind UnaryOperator.ofGlyph? with
  | some op => applyUnary op x
  | none => .error .missingKey

def computeBinary (g a b : Item) : Except Failure Item := do
  let s ← glyph? g
  match s.bind BinaryOperator.ofGlyph? with
  | some op => applyBinary op a b
  | none => .error .missingKey

def unary (g x : Item) : Except Failure Item :=
  if x.isExpression then unaryNode g x else computeUnary g x

def binary (g l r : Item) : Except Failure Item :=
  if l.isExpression || r.isExpression then binaryNode g l r else computeBinary g l r

def placeholder (name : Item) (declared : Declared) : Except Failure Item :=
  refuse (Node.placeholder name declared)

def bracketed (key : Item) : Except Failure Item :=
  match key with
  | .tuple _ [name] => placeholder name (.kind .int)
  | .tuple _ [name, x] => placeholder name (.item x)
  | .tuple .. => .error .unsupported
  | name => placeholder name (.kind .int)

def dotted (name : String) : Except Failure Item :=
  if name.startsWith "__" then .error (.hiddenName name) else placeholder (.str name) (.kind .int)

def unaryNamed? : String → Option UnaryOperator
  | "positive" => some .plus
  | "negate" => some .negate
  | "invert" => some .complement
  | _ => none

def binaryNamed? : String → Option BinaryOperator
  | "add" => some .add
  | "subtract" => some .sub
  | "multiply" => some .mul
  | "divide" => some .div
  | "modulo" => some .mod
  | _ => none

def unaryResult (g : String) (k : Kind) : Except Failure Kind :=
  -- The result kind for a glyph. Where nothing is known, the glyph is not looked at.
  if k = .any then .ok .any
  else match UnaryOperator.ofGlyph? g with
    | some op => refuse (Algebra.unaryResult op k)
    | none => .error .missingKey

def binaryResult (g : String) (l r : Kind) : Except Failure Kind :=
  if l = .any ∨ r = .any then .ok .any
  else match BinaryOperator.ofGlyph? g with
    | some op => refuse (Algebra.binaryResult op l r)
    | none => .error .missingKey

end Deferred.Build
