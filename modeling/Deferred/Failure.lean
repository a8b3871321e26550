import Deferred.Item.Text

-- What can go wrong, as causes; the wording of each is in its `message`.

set_option autoImplicit false

namespace Deferred

inductive Fault where
  | integerDivision
  | integerRemainder
  | floatDivision
  | floatRemainder
  | complexDivision
  -- division of an exact number by zero; `numerator` is what reduction leaves above zero
  | fractionDivision (numerator : Int)
  | integerTooLarge
  | quotientTooLarge
  | countTooLarge
  | widthTooLarge
  | precisionTooLarge
  | textTooLong
  | infinityToInteger
  | decimalInfinityToInteger
  | characterRange
  | byteRange
  | signalled (s : Decimal.Signal)
deriving DecidableEq, Repr

namespace Decimal.Signal

def name : Decimal.Signal → String
  | .invalidOperation => "InvalidOperation"
  | .divisionByZero => "DivisionByZero"
  | .overflow => "Overflow"
  | .divisionUndefined => "DivisionUndefined"
  | .divisionImpossible => "DivisionImpossible"

def reported : Decimal.Signal → Decimal.Signal
  | .divisionUndefined | .divisionImpossible => .invalidOperation
  | s => s

end Decimal.Signal

def Fault.message : Fault → String
  | integerDivision => "integer division or modulo by zero"
  | integerRemainder => "integer modulo by zero"
  | floatDivision => "float division by zero"
  | floatRemainder => "float modulo"
  | complexDivision => "complex division by zero"
  | fractionDivision n => "Fraction(" ++ toString n ++ ", 0)"
  | integerTooLarge => "int too large to convert to float"
  | quotientTooLarge => "integer division result too large for a float"
  | countTooLarge => "cannot fit 'int' into an index-sized integer"
  | widthTooLarge => "Python int too large to convert to C ssize_t"
  | precisionTooLarge => "Python int too large to convert to C int"
  | textTooLong => "repeated string is too long"
  | infinityToInteger => "cannot convert float infinity to integer"
  | decimalInfinityToInteger => "cannot convert Infinity to integer"
  | characterRange => "%c arg not in range(0x110000)"
  | byteRange => "%c arg not in range(256)"
  | signalled s => "[<class 'decimal." ++ s.name ++ "'>]"

inductive Rejection where
  | unnamedVariable (name : Item)
  | variableKind (name : String) (given : Item)
  | unknownUnary (glyph : Item)
  | unaryOperand (op : UnaryOperator) (x : Item)
  | unknownBinary (glyph : Item)
  | binaryOperands (op : BinaryOperator)
  | unaryKind (op : UnaryOperator) (k : Kind)
  | binaryKinds (op : BinaryOperator) (l r : Kind)
  | unnamedBinding (name : Item)
  | bindingKind (name : String) (given : Item)
  | bindingValue (name : String) (actual declared : Kind)
  | boundTwice (name : String)
  -- the expression does not fit the signature; the issues found, as intros and as full texts
  | unfitting (intros texts : List String)
deriving Repr

def Rejection.message : Rejection → String
  | unnamedVariable x => "A variable needs a non-empty name, not " ++ x.repr ++ "."
  | variableKind n x =>
    "The declared type of " ++ Text.quoted n ++ " must be a class, not " ++ x.repr ++ "."
  | unknownUnary g => "There is no unary operator " ++ g.repr ++ "."
  | unaryOperand op x =>
    "A " ++ op.title ++ " node needs an expression to work on, not " ++ x.repr ++ "."
  | unknownBinary g => "There is no binary operator " ++ g.repr ++ "."
  | binaryOperands op =>
    "A " ++ op.title ++ " node needs at least one expression among its operands."
  | unaryKind op k =>
    op.title ++ " (" ++ op.glyph.toString ++ ") does not apply to " ++ k.name ++ "."
  | binaryKinds op l r =>
    op.title ++ " (" ++ op.glyph.toString ++ ") does not apply to " ++ l.name ++ " and " ++ r.name ++ "."
  | unnamedBinding x => "A binding needs a non-empty name, not " ++ x.repr ++ "."
  | bindingKind n x =>
    "The type bound to " ++ Text.quoted n ++ " must be a class, not " ++ x.repr ++ "."
  | bindingValue n actual declared =>
    "Cannot bind " ++ Text.quoted n ++ " to a(n) " ++ actual.name ++ " as a(n) " ++ declared.name ++ "."
  | boundTwice n => Text.quoted n ++ " is bound more than once."
  | unfitting intros _ => " ".intercalate intros

def Rejection.issues : Rejection → List String
  | unfitting _ texts => texts
  | _ => []

inductive Trouble where
  | fault (f : Fault)
  | rejected (r : Rejection)
  -- the operands do not combine
  | unsupported
  -- the operands combine, but not with these values
  | invalid
  | missingKey
  | exhausted
deriving Repr

inductive Operator where
  | unary (op : UnaryOperator)
  | binary (op : BinaryOperator)
deriving DecidableEq, Repr

def Operator.title : Operator → String
  | unary op => op.title
  | binary op => op.title

inductive Failure where
  | unbound (name : String)
  | mismatch (name : String) (expected actual : Kind)
  | arithmetic (op : Operator) (f : Fault)
  | rejected (r : Rejection)
  | unsupported
  | invalid
  | missingKey
  | exhausted
  | uncomparable
  | hiddenName (name : String)
  | immutable (k : Kind)
  | unprepared (flavor : String)
deriving Repr

def Trouble.during (op : Operator) : Trouble → Failure
  | fault f => .arithmetic op f
  | rejected r => .rejected r
  | unsupported => .unsupported
  | invalid => .invalid
  | missingKey => .missingKey
  | exhausted => .exhausted

def Failure.message? : Failure → Option String
  | unbound n => some ("No binding for " ++ Text.quoted n)
  | mismatch n expected actual =>
    some (Text.quoted n ++ " was declared " ++ expected.name ++ " but is bound to a(n) " ++ actual.name)
  | arithmetic op f => some (op.title ++ " failed: " ++ f.message)
  | rejected r => some r.message
  | hiddenName n => some n
  | immutable k => some (k.name ++ " nodes are immutable")
  | unprepared flavor => some ("'" ++ flavor ++ "' object has no attribute 'prepare'")
  | unsupported | invalid | missingKey | exhausted | uncomparable => none

end Deferred
