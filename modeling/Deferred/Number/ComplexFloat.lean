import Deferred.Number.Binary64

-- Complex numbers with floating-point parts.

set_option autoImplicit false

namespace Deferred

structure ComplexFloat where
  re : Binary64
  im : Binary64
deriving DecidableEq, Repr, Inhabited

namespace ComplexFloat

def ofReal (x : Binary64) : ComplexFloat := ⟨x, .zero false⟩

def neg (z : ComplexFloat) : ComplexFloat := ⟨z.re.neg, z.im.neg⟩
def add (z w : ComplexFloat) : ComplexFloat := ⟨z.re.add w.re, z.im.add w.im⟩
def sub (z w : ComplexFloat) : ComplexFloat := ⟨z.re.sub w.re, z.im.sub w.im⟩

def mul (z w : ComplexFloat) : ComplexFloat :=
  ⟨(z.re.mul w.re).sub (z.im.mul w.im), (z.re.mul w.im).add (z.im.mul w.re)⟩

def div? (z w : ComplexFloat) : Option ComplexFloat :=
  -- Divides through the larger part of the divisor, so that its square is never formed. Fails on a
  -- zero divisor.
  if w.im.abs.le w.re.abs then
    if w.re.isZero then none
    else
      let ratio := w.im.div w.re
      let denom := w.re.add (w.im.mul ratio)
      some ⟨(z.re.add (z.im.mul ratio)).div denom, (z.im.sub (z.re.mul ratio)).div denom⟩
  else if w.re.abs.le w.im.abs then
    let ratio := w.re.div w.im
    let denom := (w.re.mul ratio).add w.im
    some ⟨((z.re.mul ratio).add z.im).div denom, ((z.im.mul ratio).sub z.re).div denom⟩
  else some ⟨.nan 0, .nan 0⟩

end ComplexFloat

end Deferred
