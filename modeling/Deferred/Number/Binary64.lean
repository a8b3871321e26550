import Deferred.Number.Rounding

-- Binary floating point with 53 significant bits, as data. Every operation is the exact result, rounded once to the
-- nearest value, ties to even.

set_option autoImplicit false

namespace Deferred

inductive Binary64 where
  -- the value `± m · 2 ^ e`, with `m < 2 ^ 53` and `-1074 ≤ e ≤ 971`
  | finite (negative : Bool) (m : Nat) (e : Int)
  | infinite (negative : Bool)
  -- Not a number. The serial tells one such value from another.
  | nan (serial : Nat)
deriving DecidableEq, Repr, Inhabited

namespace Binary64

def leastExponent : Int := -1074
def greatestExponent : Int := 971

def scaled (negative : Bool) (m : Nat) (e : Int) : Rat :=
  let n : Int := if negative then -m else m
  if 0 ≤ e then (n * Nat.pow 2 e.toNat : Int) else mkRat n (Nat.pow 2 (-e).toNat)

def zero (negative : Bool) : Binary64 := .finite negative 0 leastExponent

def exponentFor (n d : Nat) : Int :=
  -- some exponent at which `n / d` has at most 53 bits, and exactly 53 where the range allows
  let k : Int := (n.log2 : Int) - d.log2
  let reaches : Bool := if 0 ≤ k then d * Nat.pow 2 k.toNat ≤ n else d ≤ n * Nat.pow 2 (-k).toNat
  max leastExponent (if reaches then k - 52 else k - 53)

def ofQuotient (negative : Bool) (n d : Nat) : Binary64 :=
  if n = 0 then zero negative
  else
    let e := exponentFor n d
    let m := if 0 ≤ e then Rounding.nearest n (d * Nat.pow 2 e.toNat)
      else Rounding.nearest (n * Nat.pow 2 (-e).toNat) d
    let (m, e) := if m = Nat.pow 2 53 then (Nat.pow 2 52, e + 1) else (m, e)
    if greatestExponent < e then .infinite negative else .finite negative m e

def ofRat (negative : Bool) (q : Rat) : Binary64 :=
  if q.num = 0 then zero negative else ofQuotient (decide (q.num < 0)) q.num.natAbs q.den

def ofRat? (q : Rat) : Option Binary64 :=
  match ofRat false q with
  | .infinite _ => none
  | x => some x

def ofInt? (n : Int) : Option Binary64 := ofRat? n

def toRat? : Binary64 → Option Rat
  | .finite s m e => some (scaled s m e)
  | _ => none

def isNegative : Binary64 → Bool
  | .finite s _ _ => s
  | .infinite s => s
  | .nan _ => false

def isZero : Binary64 → Bool
  | .finite _ m _ => m == 0
  | _ => false

def isNan : Binary64 → Bool
  | .nan _ => true
  | _ => false

def isInfinite : Binary64 → Bool
  | .infinite _ => true
  | _ => false

def neg : Binary64 → Binary64
  | .finite s m e => .finite (!s) m e
  | .infinite s => .infinite (!s)
  | .nan _ => .nan 0

def abs : Binary64 → Binary64
  | .finite _ m e => .finite false m e
  | .infinite _ => .infinite false
  | .nan k => .nan k

def add : Binary64 → Binary64 → Binary64
  | .nan _, _ | _, .nan _ => .nan 0
  | .infinite s, .infinite t => if s = t then .infinite s else .nan 0
  | .infinite s, _ => .infinite s
  | _, .infinite t => .infinite t
  | .finite s m e, .finite t n f => ofRat (s && t) (scaled s m e + scaled t n f)

def sub (x y : Binary64) : Binary64 := add x (neg y)

def mul : Binary64 → Binary64 → Binary64
  | .nan _, _ | _, .nan _ => .nan 0
  | .infinite s, y => if y.isZero then .nan 0 else .infinite (s != y.isNegative)
  | x, .infinite t => if x.isZero then .nan 0 else .infinite (x.isNegative != t)
  | .finite s m e, .finite t n f => ofRat (s != t) (scaled s m e * scaled t n f)

def div : Binary64 → Binary64 → Binary64
  | .nan _, _ | _, .nan _ => .nan 0
  | .infinite _, .infinite _ => .nan 0
  | .infinite s, y => .infinite (s != y.isNegative)
  | x, .infinite t => zero (x.isNegative != t)
  | .finite s m e, .finite t n f =>
    if n = 0 then if m = 0 then .nan 0 else .infinite (s != t)
    else ofRat (s != t) (scaled s m e / scaled t n f)

def rem : Binary64 → Binary64 → Binary64
  -- the remainder of the quotient truncated toward zero, exact, with the sign of the dividend
  | .nan _, _ | _, .nan _ => .nan 0
  | .infinite _, _ => .nan 0
  | x, .infinite _ => x
  | .finite s m e, .finite t n f =>
    if n = 0 then .nan 0
    else
      let a := scaled s m e
      let b := scaled t n f
      let q := a / b
      let whole : Int := q.num.tdiv q.den
      ofRat s (a - b * whole)

def mod (x y : Binary64) : Binary64 :=
  -- the remainder of the quotient rounded down: it has the sign of the divisor
  let r := rem x y
  if r.isNan then r
  else if r.isZero then zero y.isNegative
  else if r.isNegative != y.isNegative then add r y
  else r

def le : Binary64 → Binary64 → Bool
  | .nan _, _ | _, .nan _ => false
  | .infinite s, .infinite t => s || !t
  | .infinite s, _ => s
  | _, .infinite t => !t
  | .finite s m e, .finite t n f => decide (scaled s m e ≤ scaled t n f)

end Binary64

end Deferred
