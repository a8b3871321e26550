import Deferred.Number.Binary64

-- The fewest decimal digits that read back to a floating-point value.

set_option autoImplicit false

namespace Deferred.Binary64

def tenTo (k : Int) : Rat :=
  if 0 ≤ k then (Nat.pow 10 k.toNat : Int) else mkRat 1 (Nat.pow 10 (-k).toNat)

-- The reals that round to `m · 2 ^ e` lie between these two; below a power of two the lower half of the gap is
-- half as wide.
def bounds (m : Nat) (e : Int) : Rat × Rat :=
  let narrow := m = Nat.pow 2 52 ∧ leastExponent < e
  (scaled false (4 * m - if narrow then 1 else 2) (e - 2), scaled false (4 * m + 2) (e - 2))

def readsBack (m : Nat) (e : Int) (r : Rat) : Bool :=
  -- reading `r` gives `m · 2 ^ e`: a bound itself goes to the even neighbour
  let (lo, hi) := bounds m e
  if m % 2 = 0 then lo ≤ r && r ≤ hi else lo < r && r < hi

-- The least `k` with `v < 10 ^ k`, for a value `v` in `[2 ^ b, 2 ^ (b + 1))`.
def decimalScale (v : Rat) (b : Int) : Int :=
  -- 1233 / 4096 is just below the decimal logarithm of two
  let k := (b * 1233).fdiv 4096
  ([k, k + 1].find? fun k => decide (v < tenTo k)).getD (k + 2)

def onGrid (m : Nat) (e : Int) (v : Rat) (k : Int) : Option Nat :=
  -- the neighbour of `v` on the grid `10 ^ k` that reads back, the nearer of two
  let g := tenTo k
  let d := (v / g).floor.toNat
  let below := readsBack m e (d * g)
  let above := readsBack m e ((d + 1 : Nat) * g)
  if below && above then
    let twice := 2 * v
    let middle := (2 * d + 1 : Nat) * g
    if twice < middle then some d
    else if middle < twice then some (d + 1)
    else some (if d % 2 = 0 then d else d + 1)
  else if below then some d
  else if above then some (d + 1)
  else none

-- Digits and power of ten of the shortest decimal that reads back to `m · 2 ^ e`.
def shortest (m : Nat) (e : Int) : Nat × Int :=
  if m = 0 then (0, 0)
  else
    let v := scaled false m e
    let k := decimalScale v (m.log2 + e)
    let found := (List.range 17).findSome? fun n =>
      let p := k - (n + 1 : Nat)
      (onGrid m e v p).map (·, p)
    match found with
    | some (d, p) => Rounding.stripZeros 18 d p
    -- seventeen digits always suffice; the exact value stands in for a search that fails
    | none => if 0 ≤ e then (m * Nat.pow 2 e.toNat, 0) else (m * Nat.pow 5 (-e).toNat, e)

end Deferred.Binary64
