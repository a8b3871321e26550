import Deferred.Failure

-- Equality of items, and a hash that respects it. Inside a container a value that is not a number counts as equal
-- to itself, and nowhere else.

set_option autoImplicit false

namespace Deferred

inductive Extended where
  | finite (num : Int) (den : Nat)
  | infinite (negative : Bool)
  | nan (serial : Nat)
deriving DecidableEq, Repr, Hashable

namespace Extended

def ofRat (q : Rat) : Extended := .finite q.num q.den

def ofFloat : Binary64 → Extended
  | .finite s m e => ofRat (Binary64.scaled s m e)
  | .infinite s => .infinite s
  | .nan k => .nan k

def ofDecimal : Decimal → Extended
  | .infinite s => .infinite s
  | .nan _ _ _ k => .nan k
  | d => match d.toRat? with
    | some q => ofRat q
    | none => .nan 0

def equal : Extended → Extended → Bool
  | .nan _, _ | _, .nan _ => false
  | x, y => x == y

end Extended

structure Point where
  re : Extended
  im : Extended
deriving DecidableEq, Repr, Hashable

namespace Item

def point? : Item → Option Point
  | .float x => some ⟨.ofFloat x, .finite 0 1⟩
  | .complex z => some ⟨.ofFloat z.re, .ofFloat z.im⟩
  | .fraction q => some ⟨.ofRat q, .finite 0 1⟩
  | .decimal d => some ⟨.ofDecimal d, .finite 0 1⟩
  | x => x.int?.map fun n => ⟨.finite n 1, .finite 0 1⟩

def isSignaling : Item → Bool
  | .decimal (.nan _ signaling _ _) => signaling
  | _ => false

def equalsLeaf (a b : Item) : Except Failure Bool :=
  -- Equality of what holds no further items. A signaling number refuses to be compared, but it differs
  -- from a complex number that is not real.
  match a.point?, b.point? with
  | some p, some q =>
    if (a.isSignaling || b.isSignaling) && p.im.equal q.im then .error .uncomparable
    else .ok (p.re.equal q.re && p.im.equal q.im)
  | _, _ =>
    match a, b with
    | .none, .none | .ellipsis, .ellipsis => .ok true
    | .str s, .str t => .ok (s == t)
    | .bytes s, .bytes t => .ok (s == t)
    | .meters s _ _, .meters t _ _ => .ok (s == t)
    | .clock s _, .clock t _ => .ok (s == t)
    | .placeholder _ m k, .placeholder _ n l => .ok (m == n && k == l)
    | _, _ => .ok false

def identical : Item → Item → Bool
  | .float x, .float y => x == y
  | .complex z, .complex w => z == w
  | .decimal d, .decimal e => d == e
  | _, _ => false

def unlessIdentical (a b : Item) (r : Except Failure Bool) : Except Failure Bool :=
  if identical a b then .ok true else r

def both (r : Except Failure Bool) (s : Except Failure Bool) : Except Failure Bool :=
  match r with
  | .ok true => s
  | r => r

def agrees : Except Failure Bool → Bool
  | .ok true => true
  | _ => false

abbrev Comparison := Item → Except Failure Bool

def matched : List (Comparison × Comparison) → List (Item × Item) → Except Failure Bool
  | [], _ => .ok true
  | (key, value) :: cs, es =>
    -- a key has one entry at most, wherever it stands
    let here (e : Item × Item) := agrees (key e.1)
    match es.find? here with
    | some e => both (value e.2) (matched cs (es.eraseP here))
    | Option.none => .ok false

def equalsEntries (keys values : List Comparison) (ls ws : List Item) : Except Failure Bool :=
  let cs := keys.zip values
  let es := ls.zip ws
  if cs.length = es.length then matched cs es else .ok false

mutual

def equals : Item → Item → Except Failure Bool
  | .tuple _ xs, .tuple _ ys => equalsAll xs ys
  | .list xs, .list ys => if xs.length = ys.length then equalsAll xs ys else .ok false
  | .dict ks vs, .dict ls ws => equalsEntries (comparisons ks) (comparisons vs) ls ws
  | .set xs, .set ys => equalsEntries (comparisons xs) (comparisons xs) ys ys
  | .unary _ o x _, .unary _ p y _ =>
    if o = p then unlessIdentical x y (equals x y) else .ok false
  | .binary _ o l r _, .binary _ p m s _ =>
    if o = p then both (unlessIdentical l m (equals l m)) (unlessIdentical r s (equals r s))
    else .ok false
  | a, b => equalsLeaf a b

def equalsAll : List Item → List Item → Except Failure Bool
  | [], [] => .ok true
  | x :: xs, y :: ys => both (unlessIdentical x y (equals x y)) (equalsAll xs ys)
  | _, _ => .ok false

def comparisons : List Item → List Comparison
  | [] => []
  | x :: xs => (fun y => unlessIdentical x y (equals x y)) :: comparisons xs

end

def hashPoint (x : Item) : Option UInt64 := x.point?.map hash

mutual

def hash? : Item → Option UInt64
  -- a hash that agrees on equal items; what can change, or refuses comparison, has none
  | .list _ | .dict .. | .set _ => Option.none
  | .tuple _ xs => hashAll? xs
  | .unary _ op x _ => (hash? x).map fun h => mixHash (hash op.glyph.val) h
  | .binary _ op l r _ => do
    let h ← hash? l
    let k ← hash? r
    some (mixHash (hash op.glyph.val) (mixHash h k))
  | .placeholder _ n k => some (mixHash (hash n) (hash k.name))
  | .str s => some (hash s)
  | .bytes bs => some (hash bs)
  | .meters s _ _ | .clock s _ => some (hash s)
  | .none => some 11
  | .ellipsis => some 13
  | .bool b => hashPoint (.bool b)
  | .int n => hashPoint (.int n)
  | .celsius n => hashPoint (.celsius n)
  | .float x => hashPoint (.float x)
  | .complex z => hashPoint (.complex z)
  | .fraction q => hashPoint (.fraction q)
  | .decimal d => if (Item.decimal d).isSignaling then Option.none else hashPoint (.decimal d)

def hashAll? : List Item → Option UInt64
  | [] => some 7
  | x :: xs => do
    let h ← hash? x
    let k ← hashAll? xs
    some (mixHash h k)

end

end Item

end Deferred
