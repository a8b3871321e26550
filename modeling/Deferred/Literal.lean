import Deferred.Arithmetic.Numeric
import Deferred.Host
import Deferred.Item.Equality

-- Reading literals. Parts are converted from left to right, and what is wrong with the first of them counts.

set_option autoImplicit false

namespace Deferred.Literal

inductive ReadFault where
  | malformed
  -- a member of a set or a key of a dictionary that can change
  | unhashable
  -- a sum of an integer too large for floating point with an imaginary part
  | overflow
deriving DecidableEq, Repr

def unsigned : Phrase → Except ReadFault Numeric
  | .constant (.int n) => .ok (.int n)
  | .constant (.float x) => .ok (.float x)
  | .constant (.complex z) => .ok (.complex z)
  | _ => .error .malformed

def Numeric.negated : Numeric → Numeric
  | .int n => .int (-n)
  | .float x => .float x.neg
  | .complex z => .complex z.neg
  | x => x

def number? : Phrase → Except ReadFault Numeric
  | .positive p => unsigned p
  | .negative p => (unsigned p).map Numeric.negated
  | p => unsigned p

def itemOf : Numeric → Item
  | .int n => .int n
  | .float x => .float x
  | .complex z => .complex z
  | .fraction q => .fraction q
  | .decimal d => .decimal d

def sumOf (op : BinaryOperator) (p q : Phrase) : Except ReadFault Item := do
  let l ← number? p
  let r ← unsigned q
  match l, r with
  | .complex _, _ => .error .malformed
  | l, .complex z => (l.apply op (.complex z)).mapError fun _ => .overflow
  | _, _ => .error .malformed

def insert (xs : List Item) (x : Item) : Except ReadFault (List Item) :=
  if x.hash?.isNone then .error .unhashable
  else .ok (if xs.any fun y => (y.equals x).toOption == some true then xs else xs ++ [x])

def put (es : List (Item × Item)) (k v : Item) : Except ReadFault (List (Item × Item)) :=
  -- a later value for an equal key takes the place of the earlier one; the key stays
  if k.hash?.isNone then .error .unhashable
  else
    .ok (if es.any fun e => (e.1.equals k).toOption == some true then
      es.map fun e => if (e.1.equals k).toOption == some true then (e.1, v) else e
    else es ++ [(k, v)])

def natural? : Item → Option Nat
  | .int (.ofNat n) => some n
  | _ => none

def arranged (xs : List Item) : List Item :=
  match xs.mapM natural? with
  | some ns => (ns.mergeSort (· ≤ ·)).map fun (n : Nat) => Item.int n
  | none => xs

mutual

def value : Phrase → Except ReadFault Item
  | .constant x => .ok x
  | .tuple ps => do .ok (.tuple .plain (← values ps))
  | .list ps => do .ok (.list (← values ps))
  | .set ps => do .ok (.set (arranged (← members [] ps)))
  | .dict ps => do
    let es ← entriesOf [] ps
    .ok (.dict (es.map Prod.fst) (es.map Prod.snd))
  | .emptySet => .ok (.set [])
  | .plus p q => sumOf .add p q
  | .minus p q => sumOf .sub p q
  | p => (number? p).map itemOf

def values : List Phrase → Except ReadFault (List Item)
  | [] => .ok []
  | p :: ps => do
    let x ← value p
    let xs ← values ps
    .ok (x :: xs)

def members (xs : List Item) : List Phrase → Except ReadFault (List Item)
  | [] => .ok xs
  | p :: ps => do
    let x ← value p
    members (← insert xs x) ps

def entriesOf (es : List (Item × Item)) : List Phrase → Except ReadFault (List (Item × Item))
  | p :: q :: ps => do
    let k ← value p
    let v ← value q
    entriesOf (← put es k v) ps
  | _ => .ok es

end

def read [Host] (cs : List Char) : Except ReadFault Item :=
  match Host.parse cs with
  | some p => value p
  | none => .error .malformed

end Deferred.Literal
