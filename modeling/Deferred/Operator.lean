-- The operators of deferred arithmetic: their glyphs and the names they go by.

set_option autoImplicit false

namespace Deferred

inductive UnaryOperator where
  | plus
  | negate
  | complement
deriving DecidableEq, Repr, Inhabited

inductive BinaryOperator where
  | add
  | sub
  | mul
  | div
  | mod
deriving DecidableEq, Repr, Inhabited

namespace UnaryOperator

def glyph : UnaryOperator → Char
  | plus => '+'
  | negate => '-'
  | complement => '~'

def title : UnaryOperator → String
  | plus => "Plus"
  | negate => "Negate"
  | complement => "BitNot"

def all : List UnaryOperator := [plus, negate, complement]

def ofGlyph? (s : String) : Option UnaryOperator := all.find? fun o => s == o.glyph.toString

end UnaryOperator

namespace BinaryOperator

def glyph : BinaryOperator → Char
  | add => '+'
  | sub => '-'
  | mul => '*'
  | div => '/'
  | mod => '%'

def title : BinaryOperator → String
  | add => "Add"
  | sub => "Sub"
  | mul => "Mul"
  | div => "Div"
  | mod => "Mod"

def all : List BinaryOperator := [add, sub, mul, div, mod]

def ofGlyph? (s : String) : Option BinaryOperator := all.find? fun o => s == o.glyph.toString

end BinaryOperator

end Deferred
