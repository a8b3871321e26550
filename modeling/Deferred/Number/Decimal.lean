import Deferred.Number.Rounding

-- Decimal floating point that keeps its exponent. Every operation rounds its exact result to 28 digits, ties to
-- even, with gradual underflow.

set_option autoImplicit false

namespace Deferred

inductive Decimal where
  -- the value `± coefficient · 10 ^ exponent`
  | finite (negative : Bool) (coefficient : Nat) (exponent : Int)
  | infinite (negative : Bool)
  -- Not a number; a signaling one refuses every operation. The serial tells one from another.
  | nan (negative signaling : Bool) (payload serial : Nat)
deriving DecidableEq, Repr, Inhabited

namespace Decimal

inductive Signal where
  | invalidOperation
  | divisionByZero
  | overflow
  | divisionUndefined
  | divisionImpossible
deriving DecidableEq, Repr

def precision : Nat := 28
def greatestExponent : Int := 999999
def tiny : Int := -1000026
def top : Int := 999972

def ofInt (n : Int) : Decimal := .finite (decide (n < 0)) n.natAbs 0

def toRat? : Decimal → Option Rat
  | .finite s c e =>
    let n : Int := if s then -c else c
    some (if 0 ≤ e then (n * Nat.pow 10 e.toNat : Int) else mkRat n (Nat.pow 10 (-e).toNat))
  | _ => none

def adjusted (c : Nat) (e : Int) : Int := Rounding.digitCount c + e - 1

def fit (negative : Bool) (c : Nat) (e : Int) : Except Signal Decimal :=
  if c = 0 then .ok (.finite negative 0 (min (max e tiny) greatestExponent))
  else
    let size := Rounding.digitCount c
    let least : Int := size + e - precision
    if top < least then .error .overflow
    else
      let least := max least tiny
      if least ≤ e then .ok (.finite negative c e)
      else
        let shift := (least - e).toNat
        -- past the first digit nothing is left to round up
        let c := if size + 1 < shift then 0 else Rounding.nearest c (Nat.pow 10 shift)
        let (c, least) := if precision < Rounding.digitCount c then (c / 10, least + 1) else (c, least)
        if top < least then .error .overflow else .ok (.finite negative c least)

def notANumber? (x y : Decimal) : Option (Except Signal Decimal) :=
  match x, y with
  | .nan _ true _ _, _ | _, .nan _ true _ _ => some (.error .invalidOperation)
  | .nan s _ p _, _ => some (.ok (.nan s false (p % Nat.pow 10 precision) 0))
  | _, .nan s _ p _ => some (.ok (.nan s false (p % Nat.pow 10 precision) 0))
  | _, _ => none

-- Brings two nonzero terms to one exponent. A term too small to show in the rounded sum stands as a single
-- unit below the last digit that matters, which rounds the same way.
def align (m : Nat) (e : Int) (n : Nat) (f : Int) : Nat × Nat × Int :=
  if e < f then
    let (b, a, g) := meet n f m e
    (a, b, g)
  else meet m e n f
where
  meet (m : Nat) (e : Int) (n : Nat) (f : Int) : Nat × Nat × Int :=
    let g := e + min (-1) ((Rounding.digitCount m : Int) - precision - 2)
    let (n, f) := if Rounding.digitCount n + f - 1 < g then (1, g) else (n, f)
    (m * Nat.pow 10 (e - f).toNat, n, f)

def add (x y : Decimal) : Except Signal Decimal :=
  match notANumber? x y with
  | some r => r
  | none =>
    match x, y with
    | .infinite s, .infinite t => if s = t then .ok x else .error .invalidOperation
    | .infinite _, _ => .ok x
    | _, .infinite _ => .ok y
    | .finite s m e, .finite t n f =>
      let least := min e f
      if m = 0 && n = 0 then fit (s && t) 0 least
      else if m = 0 then
        let g := max least (f - precision - 1)
        fit t (n * Nat.pow 10 (f - g).toNat) g
      else if n = 0 then
        let g := max least (e - precision - 1)
        fit s (m * Nat.pow 10 (e - g).toNat) g
      else
        let (a, b, g) := align m e n f
        if s = t then fit s (a + b) g
        else if a = b then fit false 0 least
        else if b < a then fit s (a - b) g
        else fit t (b - a) g
    | _, _ => .error .invalidOperation

def neg (x : Decimal) : Except Signal Decimal :=
  match notANumber? x x with
  | some r => r
  | none =>
    match x with
    | .finite s c e => fit (if c = 0 then false else !s) c e
    | .infinite s => .ok (.infinite (!s))
    | x => .ok x

def pos (x : Decimal) : Except Signal Decimal :=
  match notANumber? x x with
  | some r => r
  | none =>
    match x with
    | .finite s c e => fit (if c = 0 then false else s) c e
    | x => .ok x

def flip : Decimal → Decimal
  | .finite s c e => .finite (!s) c e
  | .infinite s => .infinite (!s)
  | x => x

def sub (x y : Decimal) : Except Signal Decimal :=
  match notANumber? x y with
  | some r => r
  | none => add x y.flip

def mul (x y : Decimal) : Except Signal Decimal :=
  match notANumber? x y with
  | some r => r
  | none =>
    match x, y with
    | .finite s m e, .finite t n f => fit (s != t) (m * n) (e + f)
    | .infinite s, .infinite t => .ok (.infinite (s != t))
    | .infinite s, .finite t n _ | .finite t n _, .infinite s =>
      if n = 0 then .error .invalidOperation else .ok (.infinite (s != t))
    | _, _ => .error .invalidOperation

-- Division. An exact quotient keeps the exponent nearest to the difference of the operands'; any other is cut
-- two digits past the precision, with a last digit that shows it is not exact.
def div (x y : Decimal) : Except Signal Decimal :=
  match notANumber? x y with
  | some r => r
  | none =>
    match x, y with
    | .infinite _, .infinite _ => .error .invalidOperation
    | .infinite s, .finite t _ _ => .ok (.infinite (s != t))
    | .finite s _ _, .infinite t => .ok (.finite (s != t) 0 tiny)
    | .finite s m e, .finite t n f =>
      if n = 0 then .error (if m = 0 then .divisionUndefined else .divisionByZero)
      else if m = 0 then fit (s != t) 0 (e - f)
      else
        let shift : Int := Rounding.digitCount n - Rounding.digitCount m + precision + 1
        let a := m * Nat.pow 10 shift.toNat
        let b := n * Nat.pow 10 (-shift).toNat
        let g := e - f - shift
        let q := a / b
        if a % b ≠ 0 then fit (s != t) (if q % 5 = 0 then q + 1 else q) g
        else
          let (q, g) := Rounding.stripZeros (e - f - g).toNat q g
          fit (s != t) q g
    | _, _ => .error .invalidOperation

def rem (x y : Decimal) : Except Signal Decimal :=
  -- the remainder of the quotient truncated toward zero, which must fit the precision
  match notANumber? x y with
  | some r => r
  | none =>
    match x, y with
    | .infinite _, _ => .error .invalidOperation
    | .finite s m e, .infinite _ => fit s m e
    | .finite s m e, .finite _ n f =>
      if n = 0 then .error (if m = 0 then .divisionUndefined else .invalidOperation)
      else
        let g := min e f
        let gap := adjusted m e - adjusted n f
        if m = 0 then fit s 0 g
        else if gap ≤ -2 then fit s (m * Nat.pow 10 (e - g).toNat) g
        else if precision < gap then .error .divisionImpossible
        else
          let a := m * Nat.pow 10 (e - g).toNat
          let b := n * Nat.pow 10 (f - g).toNat
          if Nat.pow 10 precision ≤ a / b then .error .divisionImpossible else fit s (a % b) g
    | _, _ => .error .invalidOperation

end Decimal

end Deferred
