import Deferred.Item
import Deferred.Number.Binary64.Notation
import Deferred.Number.Decimal.Notation
import Deferred.Text.Quoted

-- The text of items. An operand of a formula stands in parentheses exactly when it is an operator node, whatever
-- binds tighter.

set_option autoImplicit false

namespace Deferred

def fractionText (q : Rat) : String :=
  if q.den = 1 then toString q.num else toString q.num ++ "/" ++ toString q.den

namespace Item

def greatestDigits : Nat := 4300

def hasText (n : Int) : Bool := (Nat.toDigits 10 n.natAbs).length ≤ greatestDigits

mutual

def isWritable : Item → Bool
  -- no integer of the item, at any depth, has too many digits to be written out
  | .int n | .celsius n => hasText n
  | .fraction q => hasText q.num && hasText q.den
  | .tuple _ xs | .list xs | .set xs => areWritable xs
  | .dict ks vs => areWritable ks && areWritable vs
  | .meters _ _ n => isWritable n
  | .unary _ _ x _ => isWritable x
  | .binary _ _ l r _ => isWritable l && isWritable r
  | _ => true

def areWritable : List Item → Bool
  | [] => true
  | x :: xs => isWritable x && areWritable xs

end

def commaSeparated (xs : List String) : String := ", ".intercalate xs

def tupleRepr : TupleForm → List String → String
  | .shape, [rows, cols] => "Shape(rows=" ++ rows ++ ", cols=" ++ cols ++ ")"
  | _, [x] => "(" ++ x ++ ",)"
  | _, xs => "(" ++ commaSeparated xs ++ ")"

mutual

def repr : Item → String
  | .none => "None"
  | .ellipsis => "Ellipsis"
  | .bool b => if b then "True" else "False"
  | .int n | .celsius n => toString n
  | .float x => x.text
  | .complex z => z.text
  | .fraction q => "Fraction(" ++ toString q.num ++ ", " ++ toString q.den ++ ")"
  | .decimal d => "Decimal('" ++ d.text ++ "')"
  | .str s => Text.quoted s
  | .bytes bs => Text.quotedBytes bs
  | .tuple f xs => tupleRepr f (reprs xs)
  | .list xs => "[" ++ commaSeparated (reprs xs) ++ "]"
  | .dict ks vs =>
    "\x7b" ++ commaSeparated ((reprs ks).zipWith (fun k v => k ++ ": " ++ v) (reprs vs)) ++ "\x7d"
  | .set xs => if xs.isEmpty then "set()" else "\x7b" ++ commaSeparated (reprs xs) ++ "\x7d"
  | .meters _ kilo n => (if kilo then "Kilometers(" else "Meters(") ++ repr n ++ ")"
  | .clock _ h => "Clock(" ++ toString h.val ++ ")"
  | .placeholder _ name k => "<Variable " ++ name ++ ":" ++ k.name ++ ">"
  | .unary _ op x _ => "<" ++ op.title ++ " " ++ repr x ++ ">"
  | .binary _ op l r _ => "<" ++ op.title ++ " " ++ repr l ++ " " ++ repr r ++ ">"

def reprs : List Item → List String
  | [] => []
  | x :: xs => repr x :: reprs xs

end

def literalText : Item → String
  | .str s => s
  | .fraction q => fractionText q
  | .decimal d => d.text
  | x => x.repr

def parenthesized (inner : Bool) (cs : List Char) : List Char :=
  if inner then '(' :: cs ++ [')'] else cs

mutual

def formula : Item → List Char
  | .placeholder _ name _ => name.toList
  | .unary _ op x _ => op.glyph :: parenthesized x.isComposite (formula x)
  | .binary _ op l r _ =>
    parenthesized l.isComposite (formula l) ++ op.glyph :: parenthesized r.isComposite (formula r)
  | .tuple _ xs => '(' :: formulas xs ++ [')']
  | x => x.literalText.toList

def formulas : List Item → List Char
  | [] => []
  | [x] => formula x
  | x :: y :: ys => formula x ++ ',' :: ' ' :: formulas (y :: ys)

end

def format (x : Item) : String := String.ofList x.formula

def text (x : Item) : String := if x.isExpression then x.format else x.literalText

end Item

end Deferred
