import Deferred.Number.Binary64.Notation
import Deferred.Text.Quoted

-- Floating-point text with a set number of digits. The exact value is rounded once, ties to even.

set_option autoImplicit false

namespace Deferred.Binary64

def positional (v : Rat) (places : Nat) (pointed : Bool) : List Char :=
  let n := Rounding.nearest (v.num.natAbs * Nat.pow 10 places) v.den
  let ds := Text.padded 10 (places + 1) n
  let whole := ds.take (ds.length - places)
  if places = 0 then if pointed then whole ++ ['.'] else whole
  else whole ++ '.' :: ds.drop (ds.length - places)

def significant (v : Rat) (b : Int) (count : Nat) : Nat × Int :=
  let lead := decimalScale v b - 1
  let shift : Int := count - 1 - lead
  let n := if 0 ≤ shift then Rounding.nearest (v.num.natAbs * Nat.pow 10 shift.toNat) v.den
    else Rounding.nearest v.num.natAbs (v.den * Nat.pow 10 (-shift).toNat)
  if n = Nat.pow 10 count then (n / 10, lead + 1) else (n, lead)

def mantissaText (ds : List Char) (pointed : Bool) : List Char :=
  match ds with
  | [d] => if pointed then [d, '.'] else [d]
  | d :: r => d :: '.' :: r
  | [] => []

def magnitude (m : Nat) (e : Int) : Rat × Int := (scaled false m e, m.log2 + e)

def digitsOf (m : Nat) (e : Int) (count : Nat) : List Char × Int :=
  if m = 0 then (List.replicate count '0', 0)
  else
    let (v, b) := magnitude m e
    let (n, lead) := significant v b count
    (Text.padded 10 count n, lead)

def scientific (m : Nat) (e : Int) (places : Nat) (pointed : Bool) : List Char :=
  let (ds, lead) := digitsOf m e (places + 1)
  mantissaText ds pointed ++ (exponentText "e" lead).toList

def general (m : Nat) (e : Int) (count : Nat) (pointed : Bool) : List Char :=
  -- at most `count` significant digits; trailing zeros stay only if `pointed`
  let count := max count 1
  let (ds, lead) := digitsOf m e count
  let strip (ds : List Char) : List Char :=
    if pointed then ds else (ds.reverse.dropWhile (· == '0')).reverse
  if lead < -4 ∨ count ≤ lead then
    let ds := match strip ds with
      | [] => ds.take 1
      | ds => ds
    mantissaText ds pointed ++ (exponentText "e" lead).toList
  else if lead < 0 then
    '0' :: '.' :: strip (List.replicate (-lead - 1).toNat '0' ++ ds)
  else
    let n := (lead + 1).toNat
    match strip (ds.drop n) with
    | [] => if pointed then ds.take n ++ ['.'] else ds.take n
    | frac => ds.take n ++ '.' :: frac

end Deferred.Binary64
