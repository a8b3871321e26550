import Deferred.Host
import Deferred.Item.Equality

-- Joining and repeating text, bytes, tuples and lists, and the difference of sets.

set_option autoImplicit false

namespace Deferred

namespace Sequence

def greatestSize : Int := 0x7fffffffffffffff

def repeated [Host] {α : Type} (xs : List α) (n : Int) (tooLong : Trouble) : Except Trouble (List α) :=
  if n < -greatestSize - 1 ∨ greatestSize < n then .error (.fault .countTooLarge)
  else if n ≤ 0 ∨ xs.isEmpty then .ok []
  else if greatestSize < n * xs.length then .error tooLong
  else if Host.room < n * xs.length then .error .exhausted
  else .ok (List.replicate n.toNat xs).flatten

end Sequence

namespace Item

def isSequence : Item → Bool
  | .str _ | .bytes _ | .tuple .. | .list _ => true
  | _ => false

def join : Item → Item → Except Trouble Item
  | .str s, .str t => .ok (.str (s ++ t))
  | .bytes s, .bytes t => .ok (.bytes (s ++ t))
  | .tuple _ xs, .tuple _ ys => .ok (.tuple .plain (xs ++ ys))
  | .list xs, .list ys => .ok (.list (xs ++ ys))
  | _, _ => .error .unsupported

def times [Host] : Item → Int → Except Trouble Item
  | .str s, n => do
    .ok (.str (String.ofList (← Sequence.repeated s.toList n (.fault .textTooLong))))
  | .bytes bs, n => do .ok (.bytes (← Sequence.repeated bs n .exhausted))
  | .tuple _ xs, n => do .ok (.tuple .plain (← Sequence.repeated xs n .exhausted))
  | .list xs, n => do .ok (.list (← Sequence.repeated xs n .exhausted))
  | _, _ => .error .unsupported

def without (xs ys : List Item) : List Item :=
  -- the members of the one set that the other has no equal of
  xs.filter fun x => !ys.any fun y => agrees (unlessIdentical y x (y.equals x))

def difference : Item → Item → Except Trouble Item
  | .set xs, .set ys => .ok (.set (without xs ys))
  | _, _ => .error .unsupported

end Item

end Deferred
