import Deferred.Number.Binary64.Shortest
import Deferred.Number.ComplexFloat
import Deferred.Text.Numeral

-- How floating-point and complex numbers are written and read.

set_option autoImplicit false

namespace Deferred

def exponentText (mark : String) (k : Int) : String :=
  let ds := toString k.natAbs
  mark ++ (if k < 0 then "-" else "+") ++ (if ds.length < 2 then "0" else "") ++ ds

def layDigits (whole : String) (ds : List Char) (p : Int) : String :=
  -- digits `ds`, the first of which stands for `10 ^ (p - 1)`, as text without a sign
  if -4 < p ∧ p ≤ 16 then
    if p ≤ 0 then "0." ++ String.ofList (List.replicate (-p).toNat '0' ++ ds)
    else
      let n := p.toNat
      if ds.length ≤ n then String.ofList (ds ++ List.replicate (n - ds.length) '0') ++ whole
      else String.ofList (ds.take n) ++ "." ++ String.ofList (ds.drop n)
  else
    let mantissa := match ds with
      | d :: r@(_ :: _) => String.ofList (d :: '.' :: r)
      | _ => String.ofList ds
    mantissa ++ exponentText "e" (p - 1)

namespace Binary64

def layout (whole : String) : Binary64 → String
  | .nan _ => "nan"
  | .infinite s => if s then "-inf" else "inf"
  | .finite s m e =>
    let (d, k) := shortest m e
    let ds := Nat.toDigits 10 d
    (if s then "-" else "") ++ layDigits whole ds (if d = 0 then 1 else ds.length + k)

def text (x : Binary64) : String := x.layout ".0"

def ofNumeral (negative : Bool) (n : Text.Numeral) : Binary64 :=
  let size : Int := Rounding.digitCount n.digits + n.exponent
  -- far out of range the power of ten is never formed
  if n.digits = 0 || size < -400 then zero negative
  else if 400 < size then .infinite negative
  else if 0 ≤ n.exponent then ofQuotient negative (n.digits * Nat.pow 10 n.exponent.toNat) 1
  else ofQuotient negative n.digits (Nat.pow 10 (-n.exponent).toNat)

def read? (s : String) : Option Binary64 :=
  let (negative, cs) := Text.sign ((Text.trim s.toList).map Text.westernDigit)
  let word := String.ofList (cs.map Char.toLower)
  if word = "inf" || word = "infinity" then some (.infinite negative)
  else if word = "nan" then some (.nan 0)
  else (Text.Numeral.read? cs).map (ofNumeral negative)

end Binary64

namespace ComplexFloat

def text (z : ComplexFloat) : String :=
  let im := z.im.layout ""
  if z.re.isZero && !z.re.isNegative then im ++ "j"
  else "(" ++ z.re.layout "" ++ (if im.startsWith "-" then "" else "+") ++ im ++ "j)"

end ComplexFloat

end Deferred
