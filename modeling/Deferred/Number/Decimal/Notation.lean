import Deferred.Number.Decimal
import Deferred.Text.Numeral

-- How decimals are written and read. The text reads back to the same decimal.

set_option autoImplicit false

namespace Deferred.Decimal

def finiteText (c : Nat) (e : Int) : String :=
  -- positionally where no digit is invented and at most five zeros follow the point; otherwise
  -- with one digit before the point and an exponent
  let ds := Nat.toDigits 10 c
  let left : Int := ds.length + e
  let point := if e ≤ 0 ∧ -6 < left then left else 1
  let body :=
    if point ≤ 0 then "0." ++ String.ofList (List.replicate (-point).toNat '0' ++ ds)
    else
      let n := point.toNat
      if ds.length ≤ n then String.ofList (ds ++ List.replicate (n - ds.length) '0')
      else String.ofList (ds.take n) ++ "." ++ String.ofList (ds.drop n)
  let k := left - point
  if k = 0 then body
  else body ++ "E" ++ (if k < 0 then "-" else "+") ++ toString k.natAbs

def text : Decimal → String
  | .finite s c e => (if s then "-" else "") ++ finiteText c e
  | .infinite s => if s then "-Infinity" else "Infinity"
  | .nan s q p _ =>
    (if s then "-" else "") ++ (if q then "sNaN" else "NaN") ++ (if p = 0 then "" else toString p)

def read? (s : String) : Option Decimal :=
  let cs := ((Text.trim s.toList).filter (· != '_')).map Text.westernDigit
  let (negative, cs) := Text.sign cs
  let lower := cs.map Char.toLower
  if lower = "inf".toList || lower = "infinity".toList then some (.infinite negative)
  else
    let payload (signaling : Bool) (ds : List Char) : Option Decimal :=
      if ds.all Char.isDigit then some (.nan negative signaling (Text.digitsValue ds) 0) else none
    match lower with
    | 'n' :: 'a' :: 'n' :: ds => payload false ds
    | 's' :: 'n' :: 'a' :: 'n' :: ds => payload true ds
    | _ => (Text.Numeral.read? cs).map fun n => .finite negative n.digits n.exponent

end Deferred.Decimal
