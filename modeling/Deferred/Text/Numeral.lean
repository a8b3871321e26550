import Deferred.Text.Character

-- Decimal numerals: digits, an optional fraction and an optional power of ten, without a sign.

set_option autoImplicit false

namespace Deferred.Text

/-- The number `digits · 10 ^ exponent`. -/
structure Numeral where
  digits : Nat
  exponent : Int
  fractional : Bool
deriving DecidableEq, Repr, Inhabited

def digitsValue (cs : List Char) : Nat :=
  cs.foldl (fun n c => 10 * n + (c.toNat - 48)) 0

def digitTail : List Char → List Char × List Char
  | [] => ([], [])
  | '_' :: d :: r =>
    if d.isDigit then
      let (ds, rest) := digitTail r
      (d :: ds, rest)
    else ([], '_' :: d :: r)
  | c :: r =>
    if c.isDigit then
      let (ds, rest) := digitTail r
      (c :: ds, rest)
    else ([], c :: r)

def digitRun : List Char → List Char × List Char
  | c :: r =>
    if c.isDigit then
      let (ds, rest) := digitTail r
      (c :: ds, rest)
    else ([], c :: r)
  | [] => ([], [])

def sign : List Char → Bool × List Char
  | '-' :: cs => (true, cs)
  | '+' :: cs => (false, cs)
  | cs => (false, cs)

def power (cs : List Char) : Option (Int × List Char) :=
  match cs with
  | e :: r =>
    if e = 'e' || e = 'E' then
      let (negative, r) := sign r
      let (ds, rest) := digitRun r
      if ds.isEmpty then none
      else
        let n : Int := digitsValue ds
        some (if negative then -n else n, rest)
    else none
  | [] => none

def Numeral.scan (cs : List Char) : Option (Numeral × List Char) :=
  let (whole, r) := digitRun cs
  let (frac, pointed, r) : List Char × Bool × List Char := match r with
    | '.' :: r' =>
      let (f, r'') := digitRun r'
      if whole.isEmpty && f.isEmpty then ([], false, r) else (f, true, r'')
    | _ => ([], false, r)
  if whole.isEmpty && frac.isEmpty then none
  else
    let ds := digitsValue (whole ++ frac)
    match power r with
    | some (e, r) => some (⟨ds, e - frac.length, true⟩, r)
    | none => some (⟨ds, -frac.length, pointed⟩, r)

def Numeral.read? (cs : List Char) : Option Numeral :=
  match Numeral.scan cs with
  | some (n, []) => some n
  | _ => none

end Deferred.Text
