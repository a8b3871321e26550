import Deferred.Text.Character

-- Text cut to a precision and set in a width, as a field specification says.

set_option autoImplicit false

namespace Deferred.Text

inductive Align where
  | left
  | right
  | center
deriving DecidableEq, Repr

structure Field where
  fill : Char
  align : Align
  width : Option Nat
  precision : Option Nat
deriving Repr

def align? : Char → Option (Option Align)
  | '<' => some (some .left)
  | '>' => some (some .right)
  | '^' => some (some .center)
  -- between sign and digits, which text does not have
  | '=' => some none
  | _ => none

def greatestWidth : Nat := 0x7fffffffffffffff

def count (cs : List Char) : Option (Option Nat × List Char) :=
  let ds := cs.takeWhile fun c => (digitValue? c).isSome
  let n := ds.foldl (fun n c => 10 * n + (digitValue? c).getD 0) 0
  if ds.isEmpty then some (none, cs)
  else if greatestWidth < n then none
  else some (some n, cs.drop ds.length)

def fillAndAlign (cs : List Char) : Option (Char × Align × Bool × List Char) :=
  match cs with
  | f :: a :: r =>
    match align? a, align? f with
    | some (some x), _ => some (f, x, true, r)
    | some none, _ => none
    | none, some (some x) => some (' ', x, false, a :: r)
    | none, some none => none
    | none, none => some (' ', .left, false, cs)
  | [a] =>
    match align? a with
    | some (some x) => some (' ', x, false, [])
    | some none => none
    | none => some (' ', .left, false, cs)
  | [] => some (' ', .left, false, [])

def Field.read? (spec : String) : Option Field := do
  let (fill, align, filled, cs) ← fillAndAlign spec.toList
  let (fill, cs) := match filled, cs with
    | false, '0' :: r => ('0', r)
    | _, cs => (fill, cs)
  let (width, cs) ← count cs
  let (precision, cs) ← match cs with
    | '.' :: r => do
      let (p, r) ← count r
      if p.isNone then none else some (p, r)
    | cs => some (none, cs)
  match cs with
  | [] | ['s'] => some ⟨fill, align, width, precision⟩
  | _ => none

def Field.lay (f : Field) (cs : List Char) : List Char :=
  let cs := match f.precision with
    | some p => cs.take p
    | none => cs
  let pad := f.width.getD 0 - cs.length
  match f.align with
  | .left => cs ++ List.replicate pad f.fill
  | .right => List.replicate pad f.fill ++ cs
  | .center => List.replicate (pad / 2) f.fill ++ cs ++ List.replicate (pad - pad / 2) f.fill

end Deferred.Text
