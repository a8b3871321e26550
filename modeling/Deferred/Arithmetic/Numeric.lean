import Deferred.Failure

-- Two numbers first meet in one kind. Every kind but the integers divides its own way.

set_option autoImplicit false

namespace Deferred

inductive Numeric where
  | int (n : Int)
  | float (x : Binary64)
  | complex (z : ComplexFloat)
  | fraction (q : Rat)
  | decimal (d : Decimal)
deriving Repr

inductive Matched where
  | ints (a b : Int)
  | floats (x y : Binary64)
  | complexes (z w : ComplexFloat)
  | fractions (p q : Rat)
  | decimals (d e : Decimal)
deriving Repr

def Item.numeric? : Item → Option Numeric
  | .float x => some (.float x)
  | .complex z => some (.complex z)
  | .fraction q => some (.fraction q)
  | .decimal d => some (.decimal d)
  | x => x.int?.map .int

def integerToFloat (n : Int) : Except Trouble Binary64 :=
  match Binary64.ofInt? n with
  | some x => .ok x
  | none => .error (.fault .integerTooLarge)

def fractionToFloat (q : Rat) : Except Trouble Binary64 :=
  match Binary64.ofRat? q with
  | some x => .ok x
  | none => .error (.fault .quotientTooLarge)

namespace Numeric

def toFloat : Numeric → Except Trouble Binary64
  | int n => integerToFloat n
  | float x => .ok x
  | fraction q => fractionToFloat q
  | _ => .error .unsupported

def meet : Numeric → Numeric → Except Trouble Matched
  | int a, int b => .ok (.ints a b)
  | decimal d, decimal e => .ok (.decimals d e)
  | decimal d, int n => .ok (.decimals d (.ofInt n))
  | int n, decimal e => .ok (.decimals (.ofInt n) e)
  | complex z, complex w => .ok (.complexes z w)
  | complex z, y => y.toFloat.map fun y => .complexes z (.ofReal y)
  | x, complex w => x.toFloat.map fun x => .complexes (.ofReal x) w
  | float x, y => y.toFloat.map fun y => .floats x y
  | x, float y => x.toFloat.map fun x => .floats x y
  | fraction p, fraction q => .ok (.fractions p q)
  | fraction p, int n => .ok (.fractions p n)
  | int n, fraction q => .ok (.fractions n q)
  | _, _ => .error .unsupported

end Numeric

def signalling (r : Except Decimal.Signal Decimal) : Except Trouble Item :=
  match r with
  | .ok d => .ok (.decimal d)
  | .error s => .error (.fault (.signalled s))

namespace Matched

def add : Matched → Except Trouble Item
  | ints a b => .ok (.int (a + b))
  | floats x y => .ok (.float (x.add y))
  | complexes z w => .ok (.complex (z.add w))
  | fractions p q => .ok (.fraction (p + q))
  | decimals d e => signalling (d.add e)

def sub : Matched → Except Trouble Item
  | ints a b => .ok (.int (a - b))
  | floats x y => .ok (.float (x.sub y))
  | complexes z w => .ok (.complex (z.sub w))
  | fractions p q => .ok (.fraction (p - q))
  | decimals d e => signalling (d.sub e)

def mul : Matched → Except Trouble Item
  | ints a b => .ok (.int (a * b))
  | floats x y => .ok (.float (x.mul y))
  | complexes z w => .ok (.complex (z.mul w))
  | fractions p q => .ok (.fraction (p * q))
  | decimals d e => signalling (d.mul e)

def quotient (a b : Int) : Int :=
  -- The absolute values are divided and rounded down. Zero counts as positive.
  let q := (a.natAbs : Int).fdiv b.natAbs
  if decide (a < 0) = decide (b < 0) then q else -q

def remainder (a b : Int) : Int := a - b * quotient a b

theorem quotient_eq_tdiv (a b : Int) : quotient a b = a.tdiv b := by
  have floored (m n : Nat) : (m : Int).fdiv n = (m : Int).tdiv n := by
    rw [Int.fdiv_eq_ediv_of_nonneg _ (Int.natCast_nonneg n), Int.tdiv_eq_ediv_of_nonneg (Int.natCast_nonneg m)]
  have size (c : Int) : (c.natAbs : Int) = if c < 0 then -c else c := by
    split <;> omega
  unfold quotient
  rw [floored, size, size]
  -- both signs the same, or one of them turned
  by_cases left : a < 0 <;> by_cases right : b < 0 <;> simp [left, right, Int.neg_tdiv, Int.tdiv_neg]

theorem remainder_eq_tmod (a b : Int) : remainder a b = a.tmod b := by
  rw [remainder, quotient_eq_tdiv, Int.tmod_def]

def div : Matched → Except Trouble Item
  | ints a b => if b = 0 then .error (.fault .integerDivision) else .ok (.int (quotient a b))
  | floats x y => if y.isZero then .error (.fault .floatDivision) else .ok (.float (x.div y))
  | complexes z w =>
    match z.div? w with
    | some v => .ok (.complex v)
    | none => .error (.fault .complexDivision)
  | fractions p q =>
    if q.num = 0 then .error (.fault (.fractionDivision p.num.sign)) else .ok (.fraction (p / q))
  | decimals d e => signalling (d.div e)

def fractionMod (p q : Rat) : Rat := p - q * ((p / q).floor : Int)

def mod : Matched → Except Trouble Item
  | ints a b => if b = 0 then .error (.fault .integerDivision) else .ok (.int (remainder a b))
  | floats x y => if y.isZero then .error (.fault .floatRemainder) else .ok (.float (x.mod y))
  | complexes _ _ => .error .unsupported
  | fractions p q =>
    if q.num = 0 then .error (.fault .integerRemainder) else .ok (.fraction (fractionMod p q))
  | decimals d e => signalling (d.rem e)

end Matched

namespace Numeric

-- The remainder where a float meets a float or an integer: it takes the sign of the dividend. Only what
-- decides the answer is converted to floating point.
def floatRem (x y : Numeric) : Except Trouble Item :=
  let zero := match y with
    | int n => n == 0
    | float y => y.isZero
    | _ => false
  let infinite := match x with
    | float x => x.isInfinite
    | _ => false
  if zero then .error (.fault .floatRemainder)
  else if infinite then .ok (.float (.nan 0))
  else do
    let a ← x.toFloat
    let b ← y.toFloat
    .ok (.float (a.rem b))

def rem (x y : Numeric) : Except Trouble Item :=
  -- A complex number has no remainders. An exact number is converted to meet one all the same.
  match x, y with
  | float _, float _ | float _, int _ | int _, float _ => floatRem x y
  | complex _, int _ | int _, complex _ => .error .unsupported
  | x, y => do (← x.meet y).mod

def apply (op : BinaryOperator) (x y : Numeric) : Except Trouble Item :=
  match op with
  | .add => do (← x.meet y).add
  | .sub => do (← x.meet y).sub
  | .mul => do (← x.meet y).mul
  | .div => do (← x.meet y).div
  | .mod => rem x y

def neg : Numeric → Except Trouble Item
  | int n => .ok (.int (-n))
  | float x => .ok (.float x.neg)
  | complex z => .ok (.complex z.neg)
  | fraction q => .ok (.fraction (-q))
  | decimal d => signalling d.neg

def pos : Numeric → Except Trouble Item
  | int n => .ok (.int n)
  | float x => .ok (.float x)
  | complex z => .ok (.complex z)
  | fraction q => .ok (.fraction q)
  | decimal d => signalling d.pos

def complement : Numeric → Except Trouble Item
  | int n => .ok (.int (-n - 1))
  | _ => .error .unsupported

def applyUnary : UnaryOperator → Numeric → Except Trouble Item
  | .plus => pos
  | .negate => neg
  | .complement => complement

end Numeric

end Deferred
