-- Rounding a quotient of naturals to the nearest natural, and the decimal digits of a natural.

set_option autoImplicit false

namespace Deferred.Rounding

def nearest (n d : Nat) : Nat :=
  if 2 * (n % d) < d then n / d
  else if d < 2 * (n % d) then n / d + 1
  else n / d + n / d % 2

def digitCount (n : Nat) : Nat := (Nat.toDigits 10 n).length

def stripZeros : Nat → Nat → Int → Nat × Int
  | 0, n, e => (n, e)
  | fuel + 1, n, e => if n % 10 = 0 then stripZeros fuel (n / 10) (e + 1) else (n, e)

end Deferred.Rounding
