import Deferred.Proofs.Commutation
import Deferred.Proofs.DecimalRounding
import Deferred.Proofs.FloatingPoint
import Deferred.Proofs.Numbers
import Deferred.Proofs.Sameness

-- Operators on operands that are alike come to results that are alike again, or fail for the same reason. Only a
-- template shows more of its operands.

set_option autoImplicit false

namespace Deferred

open Outcome

/-- Numbers of one class that no arithmetic tells apart, but for the sign of a zero. -/
inductive Numeric.Alike : Numeric → Numeric → Prop
  | int (n : Int) : Alike (.int n) (.int n)
  | float {x y : Binary64} (value : x.Alike y) : Alike (.float x) (.float y)
  | complex {z w : ComplexFloat} (value : z.Alike w) : Alike (.complex z) (.complex w)
  | fraction (q : Rat) : Alike (.fraction q) (.fraction q)
  | decimal {d e : Decimal} (value : d.Alike e) : Alike (.decimal d) (.decimal e)

inductive Matched.Alike : Matched → Matched → Prop
  | ints (a b : Int) : Alike (.ints a b) (.ints a b)
  | floats {x y u v : Binary64} (left : x.Alike u) (right : y.Alike v) : Alike (.floats x y) (.floats u v)
  | complexes {z w u v : ComplexFloat} (left : z.Alike u) (right : w.Alike v) :
      Alike (.complexes z w) (.complexes u v)
  | fractions (p q : Rat) : Alike (.fractions p q) (.fractions p q)
  | decimals {d e c b : Decimal} (left : d.Alike c) (right : e.Alike b) :
      Alike (.decimals d e) (.decimals c b)

-- The class of an operand: truth values count as integers, and all tuples are one class.
def Kind.family : Kind → Kind
  | .bool => .int
  | .pair | .shape => .tuple
  | k => k

namespace Item

/-- Equal in every part. A measure made anew goes by what it measures, and a value that is no number counts as
itself. -/
inductive Like : Item → Item → Prop
  | same (x : Item) : Like x x
  | equal {x y : Item} (left : x.isLiteral) (right : y.isLiteral)
      (equal : unlessIdentical x y (x.equals y) = .ok true) : Like x y
  | number {x y : Item} {p q : Numeric} (left : x.numeric? = some p) (right : y.numeric? = some q)
      (value : p.Alike q) : Like x y
  | clock (s t : Nat) (hour : Fin 12) : Like (.clock s hour) (.clock t hour)
  | meters {s t : Nat} {kilo : Bool} {m n : Item} (content : Like m n) :
      Like (.meters s kilo m) (.meters t kilo n)
  | tuple {f g : TupleForm} {xs ys : List Item} (parts : List.Forall₂ Like xs ys) :
      Like (.tuple f xs) (.tuple g ys)
  | list {xs ys : List Item} (parts : List.Forall₂ Like xs ys) : Like (.list xs) (.list ys)
  | placeholder (s t : Nat) (n : String) (k : Kind) : Like (.placeholder s n k) (.placeholder t n k)
  | unary {s t : Nat} {op : UnaryOperator} {x y : Item} {k j : Kind} (operand : Like x y) :
      Like (.unary s op x k) (.unary t op y j)
  | binary {s t : Nat} {op : BinaryOperator} {l r m n : Item} {k j : Kind} (left : Like l m)
      (right : Like r n) : Like (.binary s op l r k) (.binary t op m n j)

/-- Equal in every part, and of one class. No operator looks at the classes of the parts. -/
inductive Alike : Item → Item → Prop
  | same (x : Item) : Alike x x
  | number {x y : Item} {p q : Numeric} (left : x.numeric? = some p) (right : y.numeric? = some q)
      (kind : x.kind.family = y.kind.family) (value : p.Alike q) : Alike x y
  | clock (s t : Nat) (hour : Fin 12) : Alike (.clock s hour) (.clock t hour)
  | meters {s t : Nat} {kilo : Bool} {m n : Item} (content : Alike m n) :
      Alike (.meters s kilo m) (.meters t kilo n)
  | tuple {f g : TupleForm} {xs ys : List Item} (parts : List.Forall₂ Like xs ys) :
      Alike (.tuple f xs) (.tuple g ys)
  | list {xs ys : List Item} (parts : List.Forall₂ Like xs ys) : Alike (.list xs) (.list ys)
  | dict {ks vs ls ws : List Item} (equal : (Item.dict ks vs).equals (.dict ls ws) = .ok true) :
      Alike (.dict ks vs) (.dict ls ws)
  | set {xs ys : List Item} (equal : (Item.set xs).equals (.set ys) = .ok true) :
      Alike (.set xs) (.set ys)
  | placeholder (s t : Nat) (n : String) (k : Kind) : Alike (.placeholder s n k) (.placeholder t n k)
  | unary {s t : Nat} {op : UnaryOperator} {x y : Item} {k : Kind} (operand : Like x y) :
      Alike (.unary s op x k) (.unary t op y k)
  | binary {s t : Nat} {op : BinaryOperator} {l r m n : Item} {k : Kind} (left : Like l m)
      (right : Like r n) : Alike (.binary s op l r k) (.binary t op m n k)

end Item

def Trouble.Akin (t u : Trouble) : Prop := t = u ∨ (∃ r, t = .rejected r) ∧ ∃ r, u = .rejected r

theorem Trouble.Akin.of_eq {t u : Trouble} (same : t = u) : t.Akin u := .inl same

namespace Numeric

theorem Alike.refl (x : Numeric) : x.Alike x := by
  cases x with
  | int n => exact .int n
  | float x => exact .float (.refl x)
  | complex z => exact .complex (.refl z)
  | fraction q => exact .fraction q
  | decimal d => exact .decimal (.refl d)

variable {x y u v : Numeric}

theorem toFloat_alike (h : x.Alike u) : Related Binary64.Alike Eq x.toFloat u.toFloat := by
  cases h with
  | float value => exact value
  | int | fraction => exact .of_eq rfl .refl fun _ => rfl
  | complex | decimal => rfl

theorem meet_alike (h : x.Alike u) (g : y.Alike v) : Related Matched.Alike Eq (x.meet y) (u.meet v) := by
  have float {p q : Numeric} (h : p.Alike q) := toFloat_alike h
  cases h with
  | int n =>
    cases g with
    | int m => exact .ints n m
    | float value =>
      exact (float (.int n)).map fun _ _ other => .floats other value
    | complex value => exact (float (.int n)).map fun _ _ other => .complexes (.ofReal other) value
    | fraction q => exact .fractions n q
    | decimal value => exact .decimals (.refl _) value
  | float value =>
    cases g with
    | int m => exact (float (.int m)).map fun _ _ other => .floats value other
    | float other => exact .floats value other
    | complex other => exact .complexes (.ofReal value) other
    | fraction q => exact (float (.fraction q)).map fun _ _ other => .floats value other
    | decimal other => rfl
  | complex value =>
    cases g with
    | int m => exact (float (.int m)).map fun _ _ other => .complexes value (.ofReal other)
    | float other => exact .complexes value (.ofReal other)
    | complex other => exact .complexes value other
    | fraction q => exact (float (.fraction q)).map fun _ _ other => .complexes value (.ofReal other)
    | decimal other => rfl
  | fraction p =>
    cases g with
    | int m => exact .fractions p m
    | float value => exact (float (.fraction p)).map fun _ _ other => .floats other value
    | complex value => exact (float (.fraction p)).map fun _ _ other => .complexes (.ofReal other) value
    | fraction q => exact .fractions p q
    | decimal other => rfl
  | decimal value =>
    cases g with
    | int m => exact .decimals value (.refl _)
    | decimal other => exact .decimals value other
    | float | complex | fraction => rfl

end Numeric

section Results

open Item

-- Both come to results that are alike, or fail for the same reason.
abbrev Agree (r s : Except Trouble Item) : Prop := Related Item.Alike Eq r s

theorem alike_floats {x y : Binary64} (h : x.Alike y) : (Item.float x).Alike (.float y) :=
  .number rfl rfl rfl (.float h)

theorem alike_complexes {z w : ComplexFloat} (h : z.Alike w) : (Item.complex z).Alike (.complex w) :=
  .number rfl rfl rfl (.complex h)

theorem agree_signalling {r s : Except Decimal.Signal Decimal} (h : Related Decimal.Alike Eq r s) :
    Agree (signalling r) (signalling s) := by
  match r, s, h with
  | .ok d, .ok e, h => exact .number rfl rfl rfl (.decimal h)
  | .error s, .error t, h => exact congrArg (fun s => Trouble.fault (.signalled s)) h

namespace Matched.Alike

variable {m n : Matched}

theorem add (h : m.Alike n) : Agree m.add n.add := by
  cases h with
  | ints | fractions => exact .same _
  | floats left right => exact alike_floats (left.add right)
  | complexes left right => exact alike_complexes (left.add right)
  | decimals left right => exact agree_signalling (left.add right)

theorem sub (h : m.Alike n) : Agree m.sub n.sub := by
  cases h with
  | ints | fractions => exact .same _
  | floats left right => exact alike_floats (left.sub right)
  | complexes left right => exact alike_complexes (left.sub right)
  | decimals left right => exact agree_signalling (left.sub right)

theorem mul (h : m.Alike n) : Agree m.mul n.mul := by
  cases h with
  | ints | fractions => exact .same _
  | floats left right => exact alike_floats (left.mul right)
  | complexes left right => exact alike_complexes (left.mul right)
  | decimals left right => exact agree_signalling (left.mul right)

theorem div (h : m.Alike n) : Agree m.div n.div := by
  cases h with
  | ints | fractions => exact .of_eq rfl .same fun _ => rfl
  | floats left right =>
    -- the sign of a zero would show in a quotient, but a zero is refused before it can divide
    unfold Matched.div
    dsimp only
    rw [← right.isZero]
    split
    · rfl
    next nonzero => exact alike_floats (left.div right (.inl (by simpa using nonzero)))
  | @complexes z w u v left right =>
    have quotient := left.div? right
    unfold Matched.div
    dsimp only
    generalize z.div? w = a at quotient
    generalize u.div? v = b at quotient
    cases quotient with
    | none => rfl
    | some value => exact alike_complexes value
  | decimals left right => exact agree_signalling (left.div right)

theorem mod (h : m.Alike n) : Agree m.mod n.mod := by
  cases h with
  | ints | fractions => exact .of_eq rfl .same fun _ => rfl
  | floats left right =>
    unfold Matched.mod
    dsimp only
    rw [← right.isZero]
    split
    · rfl
    next nonzero => exact alike_floats (left.mod right (by simpa using nonzero))
  | complexes left right => rfl
  | decimals left right => exact agree_signalling (left.rem right)

end Matched.Alike

namespace Numeric.Alike

variable {x y u v : Numeric}

theorem floatRem (h : x.Alike u) (g : y.Alike v) : Agree (x.floatRem y) (u.floatRem v) := by
  have through : Agree
      (do let a ← x.toFloat; let b ← y.toFloat; .ok (.float (a.rem b)))
      (do let a ← u.toFloat; let b ← v.toFloat; .ok (.float (a.rem b))) :=
    (toFloat_alike h).bind fun _ _ left => (toFloat_alike g).bind fun _ _ right =>
      alike_floats (left.rem right)
  have guarded {a b c d : Bool} (zero : a = b) (infinite : c = d) : Agree
      (if a then .error (.fault .floatRemainder) else if c then .ok (.float (.nan 0))
        else do let a ← x.toFloat; let b ← y.toFloat; .ok (.float (a.rem b)))
      (if b then .error (.fault .floatRemainder) else if d then .ok (.float (.nan 0))
        else do let a ← u.toFloat; let b ← v.toFloat; .ok (.float (a.rem b))) := by
    subst zero infinite
    split
    · rfl
    · split
      · exact .same _
      · exact through
  refine guarded ?_ ?_
  · cases g with
    | float value => exact value.isZero
    | _ => rfl
  · cases h with
    | float value => exact value.isInfinite
    | _ => rfl

theorem rem (h : x.Alike u) (g : y.Alike v) : Agree (x.rem y) (u.rem v) := by
  have general : Agree (x.meet y >>= Matched.mod) (u.meet v >>= Matched.mod) :=
    (meet_alike h g).bind fun _ _ => Matched.Alike.mod
  have floating := h.floatRem g
  cases h <;> cases g <;> first
    | exact general
    | exact floating
    | rfl

theorem apply (op : BinaryOperator) (h : x.Alike u) (g : y.Alike v) :
    Agree (x.apply op y) (u.apply op v) := by
  cases op with
  | add => exact (meet_alike h g).bind fun _ _ => Matched.Alike.add
  | sub => exact (meet_alike h g).bind fun _ _ => Matched.Alike.sub
  | mul => exact (meet_alike h g).bind fun _ _ => Matched.Alike.mul
  | div => exact (meet_alike h g).bind fun _ _ => Matched.Alike.div
  | mod => exact h.rem g

theorem applyUnary (op : UnaryOperator) (h : x.Alike u) : Agree (x.applyUnary op) (u.applyUnary op) := by
  cases op with
  | plus =>
    cases h with
    | int | fraction => exact .same _
    | float value => exact alike_floats value
    | complex value => exact alike_complexes value
    | decimal value => exact agree_signalling value.pos
  | negate =>
    cases h with
    | int | fraction => exact .same _
    | float value => exact alike_floats value.neg
    | complex value => exact alike_complexes value.neg
    | decimal value => exact agree_signalling value.neg
  | complement =>
    cases h with
    | int => exact .same _
    | _ => rfl

end Numeric.Alike

end Results

namespace Item

def hour? : Item → Option (Fin 12)
  | .clock _ hour => some hour
  | _ => Option.none

def members? : Item → Option (List Item)
  | .set xs => some xs
  | _ => Option.none

-- What can stand on the left of a remainder to be filled with what stands on the right.
def isTemplate : Item → Bool
  | .str _ | .bytes _ => true
  | _ => false

theorem int_eq (x : Item) :
    x.int? = x.numeric?.bind fun p => match p with
      | .int n => some n
      | _ => Option.none := by
  cases x <;> rfl

structure OnlyNumber (x : Item) : Prop where
  expression : x.isExpression = false
  clock : x.isClock = false
  hour : x.hour? = Option.none
  members : x.members? = Option.none
  sequence : x.isSequence = false
  template : x.isTemplate = false
  kind : x.valueKind = x.kind

theorem only_number {x : Item} {p : Numeric} (number : x.numeric? = some p) : x.OnlyNumber := by
  cases x <;> cases number <;> exact ⟨rfl, rfl, rfl, rfl, rfl, rfl, rfl⟩

inductive Sequences : Item → Item → Prop
  | str (s : String) : Sequences (.str s) (.str s)
  | bytes (bs : List UInt8) : Sequences (.bytes bs) (.bytes bs)
  | tuple (f g : TupleForm) {xs ys : List Item} (parts : List.Forall₂ Like xs ys) :
      Sequences (.tuple f xs) (.tuple g ys)
  | list {xs ys : List Item} (parts : List.Forall₂ Like xs ys) : Sequences (.list xs) (.list ys)

theorem likes (xs : List Item) : List.Forall₂ Like xs xs := List.forall₂_same.2 fun x _ => .same x

namespace Alike

variable {a b c d : Item}

theorem numeric (h : a.Alike c) : Option.Rel Numeric.Alike a.numeric? c.numeric? := by
  cases h with
  | same =>
    cases a.numeric? with
    | none => exact .none
    | some p => exact .some (.refl p)
  | number left right kind value =>
    rw [left, right]
    exact .some value
  | _ => exact .none

theorem int (h : a.Alike c) : a.int? = c.int? := by
  have number := h.numeric
  rw [int_eq, int_eq]
  generalize a.numeric? = p at number
  generalize c.numeric? = q at number
  cases number with
  | none => rfl
  | some value => cases value <;> rfl

theorem isExpression (h : a.Alike c) : a.isExpression = c.isExpression := by
  cases h with
  | number left right => rw [(only_number left).expression, (only_number right).expression]
  | _ => rfl

theorem isClock (h : a.Alike c) : a.isClock = c.isClock := by
  cases h with
  | number left right => rw [(only_number left).clock, (only_number right).clock]
  | _ => rfl

theorem hour (h : a.Alike c) : a.hour? = c.hour? := by
  cases h with
  | number left right => rw [(only_number left).hour, (only_number right).hour]
  | _ => rfl

theorem isSequence (h : a.Alike c) : a.isSequence = c.isSequence := by
  cases h with
  | number left right => rw [(only_number left).sequence, (only_number right).sequence]
  | _ => rfl

theorem family (h : a.Alike c) : a.valueKind.family = c.valueKind.family := by
  cases h with
  | number left right kind =>
    rw [(only_number left).kind, (only_number right).kind, kind]
  | @tuple f g xs ys parts => cases f <;> cases g <;> rfl
  | _ => rfl

theorem members (h : a.Alike c) :
    Option.Rel (fun xs ys => (Item.set xs).equals (.set ys) = .ok true) a.members? c.members? := by
  cases h with
  | same =>
    cases a with
    | set xs => exact .some (same_equivalence.refl (.set xs))
    | _ => exact .none
  | set equal => exact .some equal
  | number left right => rw [(only_number left).members, (only_number right).members]; exact .none
  | _ => exact .none

theorem sequences (h : a.Alike c) (sequence : a.isSequence = true) : Sequences a c := by
  cases h with
  | same =>
    cases a with
    | str s => exact .str s
    | bytes bs => exact .bytes bs
    | tuple f xs => exact .tuple f f (likes xs)
    | list xs => exact .list (likes xs)
    | _ => cases sequence
  | number left =>
    rw [(only_number left).sequence] at sequence
    cases sequence
  | tuple parts => exact .tuple _ _ parts
  | list parts => exact .list parts
  | _ => cases sequence

end Alike

theorem under_without (k : Item) (xs ys : List Item) :
    under k ((without xs ys).zip (without xs ys)) =
      if under k (ys.zip ys) = [] then under k (xs.zip xs) else [] := by
  have taken (x : Item) (same : Same k x) :
      (ys.any fun y => agrees (against y x)) = true ↔ under k (ys.zip ys) ≠ [] := by
    induction ys with
    | nil => exact iff_of_false nofun fun some => some rfl
    | cons y ys ih =>
      have first : agrees (against y x) = true ↔ Same k y := by
        rw [agrees_iff]
        exact ⟨fun here => same_equivalence.trans same (same_equivalence.symm here),
          fun here => same_equivalence.trans (same_equivalence.symm here) same⟩
      rw [List.any_cons, Bool.or_eq_true, first, ih, List.zip_cons_cons]
      by_cases here : Same k y
      · simp [under_cons_same (e := (y, y)) here, here]
      · rw [under_cons_other (e := (y, y)) here]
        simp [here]
  induction xs with
  | nil => split <;> rfl
  | cons x xs ih =>
    by_cases kept : (ys.any fun y => agrees (against y x)) = true
    · have skipped : without (x :: xs) ys = without xs ys :=
        List.filter_cons_of_neg (by rw [Bool.not_eq_true', Bool.not_eq_false]; exact kept)
      rw [skipped, ih, List.zip_cons_cons]
      by_cases same : Same k x
      · rw [if_neg ((taken x same).1 kept), if_neg ((taken x same).1 kept)]
      · rw [under_cons_other (e := (x, x)) same]
    · have held : without (x :: xs) ys = x :: without xs ys :=
        List.filter_cons_of_pos (by rw [Bool.not_eq_true']; exact Bool.not_eq_true _ ▸ kept)
      rw [held, List.zip_cons_cons, List.zip_cons_cons]
      by_cases same : Same k x
      · have empty : under k (ys.zip ys) = [] := by
          rw [taken x same, not_not] at kept
          exact kept
        rw [under_cons_same (e := (x, x)) same, under_cons_same (e := (x, x)) same, ih, if_pos empty, if_pos empty]
      · rw [under_cons_other (e := (x, x)) same, under_cons_other (e := (x, x)) same, ih]

theorem same_sets {xs ys : List Item} :
    (Item.set xs).equals (.set ys) = .ok true ↔
      ∀ k, List.Forall₂ Same (under k (xs.zip xs)) (under k (ys.zip ys)) := by
  have everywhere : EquivalenceOn (fun _ : Item => True) Same :=
    ⟨fun _ => same_equivalence.refl _, fun _ _ => same_equivalence.symm, fun _ _ _ => same_equivalence.trans⟩
  refine equalsEntries_ok.trans ((sameEntries_iff everywhere (fun _ _ => trivial) fun _ _ => trivial).trans ?_)
  simp

theorem equals_without {xs ys us vs : List Item} (left : (Item.set xs).equals (.set us) = .ok true)
    (right : (Item.set ys).equals (.set vs) = .ok true) :
    (Item.set (without xs ys)).equals (.set (without us vs)) = .ok true := by
  rw [same_sets] at *
  intro k
  rw [under_without, under_without]
  have empty : under k (ys.zip ys) = [] ↔ under k (vs.zip vs) = [] := by
    rw [← List.length_eq_zero_iff, ← List.length_eq_zero_iff, (right k).length_eq]
  by_cases none : under k (vs.zip vs) = []
  · rw [if_pos (empty.2 none), if_pos none]
    exact left k
  · rw [if_neg (mt empty.1 none), if_neg none]
    exact .nil

theorem join_unsupported {a b : Item} (other : a.isSequence = false ∨ b.isSequence = false) :
    join a b = .error .unsupported := by
  unfold join
  split
  iterate 4 · rcases other with other | other <;> cases other
  · rfl

theorem difference_eq (a b : Item) : difference a b =
    match a.members?, b.members? with
    | some xs, some ys => .ok (.set (without xs ys))
    | _, _ => .error .unsupported := by
  cases a <;> cases b <;> rfl

theorem times_unsupported [Host] {a : Item} (other : a.isSequence = false) (n : Int) :
    times a n = .error .unsupported := by
  cases a <;> first
    | rfl
    | cases other

namespace Alike

variable {a b c d : Item}

theorem join (h : a.Alike c) (g : b.Alike d) : Agree (a.join b) (c.join d) := by
  by_cases sequence : a.isSequence = true ∧ b.isSequence = true
  · cases h.sequences sequence.1 <;> cases g.sequences sequence.2
    case str.str | bytes.bytes => exact .same _
    case tuple.tuple first _ _ _ _ second => exact .tuple (List.rel_append first second)
    case list.list first _ _ second => exact .list (List.rel_append first second)
    all_goals rfl
  · have other : a.isSequence = false ∨ b.isSequence = false := by
      rw [not_and_or] at sequence
      simpa using sequence
    rw [join_unsupported other, join_unsupported (h.isSequence ▸ g.isSequence ▸ other)]
    rfl

theorem difference (h : a.Alike c) (g : b.Alike d) : Agree (a.difference b) (c.difference d) := by
  have left := h.members
  have right := g.members
  rw [difference_eq, difference_eq]
  generalize a.members? = x at left
  generalize c.members? = u at left
  generalize b.members? = y at right
  generalize d.members? = v at right
  cases left <;> cases right
  case some.some _ _ first _ _ second => exact .set (equals_without first second)
  all_goals rfl

theorem times [Host] (h : a.Alike c) (n : Int) : Agree (a.times n) (c.times n) := by
  cases sequence : a.isSequence with
  | true =>
    cases h.sequences sequence with
    | str | bytes => exact .of_eq rfl .same fun _ => rfl
    | tuple f g parts => exact (Sequence.repeated_related parts n _).bind fun _ _ parts => .tuple parts
    | list parts => exact (Sequence.repeated_related parts n _).bind fun _ _ parts => .list parts
  | false =>
    rw [times_unsupported sequence, times_unsupported (h.isSequence ▸ sequence)]
    rfl

end Alike

end Item

namespace Clock

open Item

theorem apply_add (a b : Item) : apply .add a b =
    match b.hour?, a.int? with
    | some h, some n => .ok (ofInt (n + h.val))
    | _, _ => .error .unsupported := by
  cases b <;> first
    | rfl
    | cases h : a.int? <;> simp [apply, hour?, h]

theorem apply_sub (a b : Item) : apply .sub a b =
    match b.hour?, a.int? with
    | some h, some n => .ok (ofInt (n - h.val))
    | _, _ => .error .unsupported := by
  cases b <;> first
    | rfl
    | cases h : a.int? <;> simp [apply, hour?, h]

theorem apply_div (a b : Item) : apply .div a b =
    match a.hour?, b.int? with
    | some h, some n => if n = 0 then .error (.fault .integerDivision) else .ok (ofInt (Int.fdiv h.val n))
    | _, _ => .error .unsupported := by
  cases a <;> first
    | rfl
    | cases h : b.int? <;> simp [apply, hour?, h]

theorem apply_mod (a b : Item) : apply .mod a b =
    match a.hour?, b.int? with
    | some h, some n => if n = 0 then .error (.fault .integerRemainder) else .ok (.int (Int.fmod h.val n))
    | _, _ => .error .unsupported := by
  cases a <;> first
    | rfl
    | cases h : b.int? <;> simp [apply, hour?, h]

theorem apply_alike (op : BinaryOperator) {a b c d : Item} (h : a.Alike c) (g : b.Alike d) :
    apply op a b = apply op c d := by
  cases op with
  | add => rw [apply_add, apply_add, h.int, g.hour]
  | sub => rw [apply_sub, apply_sub, h.int, g.hour]
  | mul => rfl
  | div => rw [apply_div, apply_div, h.hour, g.int]
  | mod => rw [apply_mod, apply_mod, h.hour, g.int]

end Clock

variable [Host]

namespace Algebra

theorem unaryResult_family (op : UnaryOperator) (k : Kind) :
    Related Eq (fun _ _ => True) (unaryResult op k.family) (unaryResult op k) := by
  cases k with
  | bool | pair | shape => cases op <;> first
    | rfl
    | trivial
  | _ => exact .of_eq rfl (fun _ => rfl) fun _ => trivial

omit [Host] in
theorem knownBinary?_family (op : BinaryOperator) {k l : Kind} (left : k.isWellKnown)
    (right : l.isWellKnown) : knownBinary? op k.family l.family = knownBinary? op k l := by
  cases op <;> cases k <;> cases left <;> cases l <;> cases right <;> rfl

theorem mayMeet_family (op : BinaryOperator) (k l : Kind) :
    mayMeet op k.family l.family = mayMeet op k l := by
  have left : (!k.family.isWellKnown && k.family.offersLeft op) = (!k.isWellKnown && k.offersLeft op) := by
    cases op <;> cases k <;> rfl
  have right : (!l.family.isWellKnown && l.family.offersRight op) = (!l.isWellKnown && l.offersRight op) := by
    cases op <;> cases l <;> rfl
  rw [mayMeet, mayMeet, left, right]

theorem binaryResult_family (op : BinaryOperator) (k l : Kind) :
    Related Eq (fun _ _ => True) (binaryResult op k.family l.family) (binaryResult op k l) := by
  have any (k : Kind) : k.family = .any ↔ k = .any := by cases k <;> simp [Kind.family]
  have known (k : Kind) : k.family.isWellKnown = k.isWellKnown := by cases k <;> rfl
  unfold binaryResult
  rw [mayMeet_family, known, known]
  simp only [any]
  split
  · rfl
  · split
    next both =>
      rw [Bool.and_eq_true] at both
      rw [knownBinary?_family op both.1 both.2]
      split
      · rfl
      · trivial
    next =>
      split
      · rfl
      · trivial

theorem unaryResult_of_family (op : UnaryOperator) {k l : Kind} (same : k.family = l.family) :
    Related Eq (fun _ _ => True) (unaryResult op k) (unaryResult op l) := by
  have left := unaryResult_family op k
  have right := unaryResult_family op l
  rw [same] at left
  exact left.flip.trans right fun _ _ _ first second => first.symm.trans second

theorem binaryResult_of_family (op : BinaryOperator) {k l m n : Kind}
    (left : k.family = m.family) (right : l.family = n.family) :
    Related Eq (fun _ _ => True) (binaryResult op k l) (binaryResult op m n) := by
  have first := binaryResult_family op k l
  have second := binaryResult_family op m n
  rw [left, right] at first
  exact first.flip.trans second fun _ _ _ first second => first.symm.trans second

end Algebra

namespace Item

abbrev Concur (r s : Except Trouble Item) : Prop := Related Alike Trouble.Akin r s

omit [Host] in
theorem Alike.like {x y : Item} (h : x.Alike y) : x.Like y := by
  induction h with
  | same x => exact .same x
  | number left right kind value => exact .number left right value
  | clock s t hour => exact .clock s t hour
  | meters content ih => exact .meters ih
  | tuple parts => exact .tuple parts
  | list parts => exact .list parts
  | dict equal => exact .equal rfl rfl equal
  | set equal => exact .equal rfl rfl equal
  | placeholder s t n k => exact .placeholder s t n k
  | unary operand => exact .unary operand
  | binary left right => exact .binary left right

omit [Host] in
theorem Concur.of_agree {r s : Except Trouble Item} (h : Agree r s) : Concur r s :=
  h.mono (fun _ _ alike => alike) fun _ _ => .of_eq

namespace Alike

variable {a b c d : Item}

theorem unaryNode (op : UnaryOperator) (h : a.Alike c) :
    Concur (refusing (Node.unary op a)) (refusing (Node.unary op c)) := by
  unfold refusing Node.unary
  rw [← h.isExpression]
  split
  · have kinds := Algebra.unaryResult_of_family op h.family
    refine (kinds.bind fun k l same => ?_).mapError fun r q _ => .inr ⟨⟨r, rfl⟩, q, rfl⟩
    subst same
    exact .unary h.like
  · exact .inr ⟨⟨_, rfl⟩, _, rfl⟩

theorem binaryNode (op : BinaryOperator) (h : a.Alike c) (g : b.Alike d) :
    Concur (refusing (Node.binary op a b)) (refusing (Node.binary op c d)) := by
  unfold refusing Node.binary
  rw [← h.isExpression, ← g.isExpression]
  split
  · have kinds := Algebra.binaryResult_of_family op h.family g.family
    refine (kinds.bind fun k l same => ?_).mapError fun r q _ => .inr ⟨⟨r, rfl⟩, q, rfl⟩
    subst same
    exact .binary h.like g.like
  · exact .inr ⟨⟨_, rfl⟩, _, rfl⟩

theorem combineValues (op : BinaryOperator) (h : a.Alike c) (g : b.Alike d) :
    Agree (a.combineValues op b) (c.combineValues op d) := by
  have left := h.numeric
  have right := g.numeric
  unfold Item.combineValues
  rw [← h.isClock, ← g.isClock, ← h.int, ← g.int]
  generalize a.numeric? = x at left
  generalize c.numeric? = u at left
  generalize b.numeric? = y at right
  generalize d.numeric? = v at right
  cases left <;> cases right
  case some.some _ _ first _ _ second => exact first.apply op second
  -- what is left where not both operands are numbers
  all_goals
    dsimp only
    split
    · exact .of_eq (Clock.apply_alike op h g) .same fun _ => rfl
    · cases op with
      | add => exact h.join g
      | sub => exact h.difference g
      | mul =>
        dsimp only
        split
        · exact h.times _
        · exact g.times _
        · rfl
      | _ => rfl

end Alike

theorem operateUnary_value (op : UnaryOperator) {x : Item} (value : x.isExpression = false) :
    operateUnary op x = match x.numeric? with
      | some n => n.applyUnary op
      | Option.none =>
        match op, x.hour? with
        | .negate, some hour => .ok (Clock.ofInt (-hour.val))
        | _, _ => .error .unsupported := by
  cases x <;> first
    | rfl
    | cases op <;> rfl
    | cases value

theorem combine_eq {op : BinaryOperator} {a : Item} (b : Item) (plain : ¬ (op = .mod ∧ a.isTemplate)) :
    combine op a b =
      if a.isExpression || b.isExpression then refusing (Node.binary op a b) else combineValues op a b := by
  unfold combine
  split
  · exact absurd ⟨rfl, rfl⟩ plain
  · exact absurd ⟨rfl, rfl⟩ plain
  · rfl

theorem sum_eq {a : Item} (b : Item) (plain : ∀ s kilo n, a = .meters s kilo n → False) :
    sum a b = combine .add a b := by
  unfold sum
  split
  · exact (plain _ _ _ rfl).elim
  · rfl

namespace Alike

variable {a b c d : Item}

omit [Host] in
theorem eq_of_template (h : a.Alike c) (template : a.isTemplate) : a = c := by
  cases h with
  | same => rfl
  | number left =>
    rw [(only_number left).template] at template
    cases template
  | _ => cases template

omit [Host] in
theorem isTemplate (h : a.Alike c) : a.isTemplate = c.isTemplate := by
  cases h with
  | number left right => rw [(only_number left).template, (only_number right).template]
  | _ => rfl

theorem combine (op : BinaryOperator) (h : a.Alike c) (g : b.Alike d)
    (filled : op = .mod → a.isTemplate → b = d) : Concur (a.combine op b) (c.combine op d) := by
  by_cases template : op = .mod ∧ a.isTemplate
  · obtain rfl := h.eq_of_template template.2
    obtain rfl := filled template.1 template.2
    exact .of_eq rfl .same fun _ => .of_eq rfl
  · rw [combine_eq b template, combine_eq d (h.isTemplate ▸ template), ← h.isExpression, ← g.isExpression]
    split
    · exact h.binaryNode op g
    · exact .of_agree (h.combineValues op g)

theorem sum (h : a.Alike c) (g : b.Alike d) : Concur (a.sum b) (c.sum d) := by
  induction a, b using Item.sum.induct generalizing c with
  | case1 s kilo n b ih =>
    cases h with
    | same => exact (ih (.same n) g).map fun _ _ => .meters
    | meters content => exact (ih content g).map fun _ _ => .meters
    | number left => cases left
  | case2 a b plain =>
    have other : ∀ s kilo n, c = .meters s kilo n → False := by
      rintro s kilo n rfl
      cases h with
      | same | meters => exact plain _ _ _ rfl
      | number left right => cases right
    rw [sum_eq b plain, sum_eq d other]
    exact h.combine .add g nofun

theorem operateBinary (op : BinaryOperator) (h : a.Alike c) (g : b.Alike d)
    (filled : op = .mod → a.isTemplate → b = d) : Concur (a.operateBinary op b) (c.operateBinary op d) := by
  cases op with
  | add => exact h.sum g
  | sub | mul | div | mod => exact h.combine _ g filled

theorem operateUnary (op : UnaryOperator) (h : a.Alike c) :
    Concur (a.operateUnary op) (c.operateUnary op) := by
  cases expression : a.isExpression with
  | true =>
    have other := h.isExpression.symm.trans expression
    simp only [Item.operateUnary, expression, other, if_true]
    exact h.unaryNode op
  | false =>
    have number := h.numeric
    rw [operateUnary_value op expression, operateUnary_value op (h.isExpression ▸ expression), ← h.hour]
    generalize a.numeric? = p at number
    generalize c.numeric? = q at number
    cases number with
    | none => exact .of_eq rfl .same fun _ => .of_eq rfl
    | some value => exact .of_agree (value.applyUnary op)

end Alike

end Item

def Failure.Akin (e f : Failure) : Prop := e = f ∨ (∃ r, e = .rejected r) ∧ ∃ r, f = .rejected r

omit [Host] in
theorem Trouble.Akin.during (op : Operator) {t u : Trouble} (h : t.Akin u) :
    (t.during op).Akin (u.during op) := by
  rcases h with rfl | ⟨⟨r, rfl⟩, q, rfl⟩
  · exact .inl rfl
  · exact .inr ⟨⟨r, rfl⟩, q, rfl⟩

open Item

theorem applyUnary_alike (op : UnaryOperator) {a c : Item} (h : a.Alike c) :
    Related Alike Failure.Akin (applyUnary op a) (applyUnary op c) :=
  (h.operateUnary op).mapError fun _ _ kin => kin.during _

theorem applyBinary_alike (op : BinaryOperator) {a b c d : Item} (h : a.Alike c) (g : b.Alike d)
    (filled : op = .mod → a.isTemplate → b = d) :
    Related Alike Failure.Akin (applyBinary op a b) (applyBinary op c d) :=
  (h.operateBinary op g filled).mapError fun _ _ kin => kin.during _

end Deferred
