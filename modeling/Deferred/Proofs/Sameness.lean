import Deferred.Arithmetic.Numeric
import Deferred.Item.Equality
import Deferred.Proofs.Outcome
import Mathlib.Data.Rat.Cast.Defs
import Mathlib.Tactic.Tauto

-- Equality compares heads, parts in order, and entries in any order, and so it is an equivalence.

set_option autoImplicit false

namespace Deferred

open Outcome

theorem Extended.ofDecimal_finite (s : Bool) (c : Nat) (e : Int) :
    Extended.ofDecimal (.finite s c e) = ofRat ((if s then -(c : Rat) else c) * 10 ^ e) := by
  have sign : (((if s then -(c : Int) else c) : Int) : Rat) = if s then -(c : Rat) else c := by
    cases s <;> simp
  refine congrArg ofRat ?_
  split
  next whole =>
    obtain ⟨k, rfl⟩ := Int.eq_ofNat_of_zero_le whole
    rw [Int.cast_mul, sign]
    simp
  next small =>
    obtain ⟨k, rfl⟩ : ∃ k : Nat, e = -k := ⟨(-e).toNat, by omega⟩
    rw [Rat.mkRat_eq_div, sign, div_eq_mul_inv]
    simp

def Decimal.isNan : Decimal → Bool
  | nan .. => true
  | _ => false

namespace Numeric

def point : Numeric → Point
  | int n => ⟨.finite n 1, .finite 0 1⟩
  | float x => ⟨.ofFloat x, .finite 0 1⟩
  | complex z => ⟨.ofFloat z.re, .ofFloat z.im⟩
  | fraction q => ⟨.ofRat q, .finite 0 1⟩
  | decimal d => ⟨.ofDecimal d, .finite 0 1⟩

def isNan : Numeric → Bool
  | float x => x.isNan
  | complex z => z.re.isNan || z.im.isNan
  | decimal d => d.isNan
  | _ => false

end Numeric

namespace Item

def Same (x y : Item) : Prop := unlessIdentical x y (x.equals y) = .ok true

theorem both_ok {r s : Except Failure Bool} : both r s = .ok true ↔ r = .ok true ∧ s = .ok true := by
  unfold both
  split
  · simp
  next other => exact ⟨fun same => absurd same other, fun same => absurd same.1 other⟩

theorem equalsAll_ok {xs ys : List Item} : equalsAll xs ys = .ok true ↔ List.Forall₂ Same xs ys := by
  induction xs generalizing ys with
  | nil => cases ys <;> simp [equalsAll]
  | cons x xs ih =>
    cases ys with
    | nil => simp [equalsAll]
    | cons y ys => rw [equalsAll, both_ok, ih, List.forall₂_cons, Same]

theorem agrees_iff {r : Except Failure Bool} : agrees r = true ↔ r = .ok true := by
  cases r with
  | error => simp [agrees]
  | ok b => cases b <;> simp [agrees]

def against (x : Item) : Comparison := fun y => unlessIdentical x y (x.equals y)

theorem comparisons_eq (xs : List Item) : comparisons xs = xs.map against := by
  induction xs with
  | nil => rfl
  | cons x xs ih =>
    rw [comparisons, ih]
    rfl

def againstEntry (e : Item × Item) : Comparison × Comparison := (against e.1, against e.2)

theorem equalsEntries_eq (ks vs ls ws : List Item) :
    equalsEntries (comparisons ks) (comparisons vs) ls ws =
      if (ks.zip vs).length = (ls.zip ws).length then matched ((ks.zip vs).map againstEntry) (ls.zip ws)
      else .ok false := by
  have zipped : (comparisons ks).zip (comparisons vs) = (ks.zip vs).map againstEntry := by
    rw [comparisons_eq, comparisons_eq, List.zip_map]
    rfl
  unfold equalsEntries
  dsimp only
  rw [zipped, List.length_map]

theorem equalsEntries_ok {ks vs ls ws : List Item} :
    equalsEntries (comparisons ks) (comparisons vs) ls ws = .ok true ↔
      (ks.zip vs).length = (ls.zip ws).length ∧
        matched ((ks.zip vs).map againstEntry) (ls.zip ws) = .ok true := by
  rw [equalsEntries_eq]
  split
  next same => exact ⟨fun found => ⟨same, found⟩, And.right⟩
  next other => exact ⟨nofun, fun found => absurd found.1 other⟩

def finds (e f : Item × Item) : Bool := agrees (against e.1 f.1)

theorem finds_iff {e f : Item × Item} : finds e f = true ↔ Same e.1 f.1 := agrees_iff

theorem find_first {e f : Item × Item} {fs : List (Item × Item)} :
    fs.find? (finds e) = some f ↔
      ∃ before behind, fs = before ++ f :: behind ∧ (∀ g ∈ before, ¬ Same e.1 g.1) ∧ Same e.1 f.1 := by
  have others (before : List (Item × Item)) :
      (∀ g ∈ before, (!finds e g) = true) ↔ ∀ g ∈ before, ¬ Same e.1 g.1 := by
    simp only [← finds_iff, Bool.not_eq_true', Bool.not_eq_true]
  rw [List.find?_eq_some_iff_append, finds_iff]
  constructor
  · rintro ⟨key, before, behind, rfl, none⟩
    exact ⟨before, behind, rfl, (others before).1 none, key⟩
  · rintro ⟨before, behind, rfl, none, key⟩
    exact ⟨key, before, behind, rfl, (others before).2 none⟩

theorem eraseP_first {e f : Item × Item} {fs gs : List (Item × Item)} (before : ∀ g ∈ fs, ¬ Same e.1 g.1)
    (here : Same e.1 f.1) : (fs ++ f :: gs).eraseP (finds e) = fs ++ gs := by
  have none : ∀ g ∈ fs, ¬ finds e g := fun g among => mt finds_iff.1 (before g among)
  rw [List.eraseP_append_right _ none, List.eraseP_cons_of_pos (finds_iff.2 here)]

theorem matched_entries (e : Item × Item) (es fs : List (Item × Item)) :
    matched ((e :: es).map againstEntry) fs = match fs.find? (finds e) with
      | some f => both (against e.2 f.2) (matched (es.map againstEntry) (fs.eraseP (finds e)))
      | Option.none => .ok false := rfl

theorem matched_cons {e : Item × Item} {es fs : List (Item × Item)} :
    matched ((e :: es).map againstEntry) fs = .ok true ↔
      ∃ before f behind, fs = before ++ f :: behind ∧ (∀ g ∈ before, ¬ Same e.1 g.1) ∧ Same e.1 f.1 ∧
        Same e.2 f.2 ∧ matched (es.map againstEntry) (before ++ behind) = .ok true := by
  rw [matched_entries]
  constructor
  · intro same
    split at same
    next f found =>
      obtain ⟨before, behind, rfl, none, key⟩ := find_first.1 found
      rw [eraseP_first none key] at same
      obtain ⟨value, rest⟩ := both_ok.1 same
      exact ⟨before, f, behind, rfl, none, key, value, rest⟩
    next => cases same
  · rintro ⟨before, f, behind, rfl, none, key, value, rest⟩
    rw [find_first.2 ⟨before, behind, rfl, none, key⟩, eraseP_first none key]
    exact both_ok.2 ⟨value, rest⟩

theorem matched_self {es : List (Item × Item)} (self : ∀ e ∈ es, Same e.1 e.1 ∧ Same e.2 e.2) :
    matched (es.map againstEntry) es = .ok true := by
  induction es with
  | nil => rfl
  | cons e es ih =>
    obtain ⟨⟨key, value⟩, rest⟩ := List.forall_mem_cons.1 self
    exact matched_cons.2 ⟨[], e, es, rfl, nofun, key, value, ih rest⟩

theorem equalsEntries_self {ks vs : List Item} (keys : ∀ k ∈ ks, Same k k) (values : ∀ v ∈ vs, Same v v) :
    equalsEntries (comparisons ks) (comparisons vs) ks vs = .ok true :=
  equalsEntries_ok.2 ⟨rfl, matched_self fun _ among =>
    ⟨keys _ (List.of_mem_zip among).1, values _ (List.of_mem_zip among).2⟩⟩

theorem identical_eq {x y : Item} (h : identical x y = true) : x = y := by
  unfold identical at h
  split at h
  · rw [eq_of_beq h]
  · rw [eq_of_beq h]
  · rw [eq_of_beq h]
  · cases h

theorem same_iff {x y : Item} : Same x y ↔ identical x y = true ∨ x.equals y = .ok true := by
  unfold Same unlessIdentical
  split
  next identity => simp [identity]
  next apart => simp [apart]

theorem Same.cases {x y : Item} (h : Same x y) : x = y ∨ x.equals y = .ok true :=
  (same_iff.1 h).imp_left identical_eq

theorem Same.of_equals {x y : Item} (h : x.equals y = .ok true) : Same x y := same_iff.2 (.inr h)

namespace Same

theorem tuple {f : TupleForm} {xs : List Item} {y : Item} (h : Same (.tuple f xs) y) :
    ∃ g ys, y = .tuple g ys ∧ List.Forall₂ Same xs ys := by
  rcases same_iff.1 h with identity | equal
  · cases identity
  · cases y with
    | tuple g ys => exact ⟨g, ys, rfl, equalsAll_ok.1 equal⟩
    | _ => cases equal

theorem list {xs ys : List Item} (h : Same (.list xs) (.list ys)) : List.Forall₂ Same xs ys := by
  rcases same_iff.1 h with identity | equal
  · cases identity
  · rw [equals] at equal
    split at equal
    · exact equalsAll_ok.1 equal
    · cases equal

theorem placeholder {s : Nat} {n : String} {k : Kind} {y : Item} (h : Same (.placeholder s n k) y) :
    ∃ t, y = .placeholder t n k := by
  rcases same_iff.1 h with identity | equal
  · cases identity
  · cases y with
    | placeholder t m l =>
      have parts : (n == m && k == l) = true := Except.ok.inj equal
      obtain ⟨rfl, rfl⟩ : n = m ∧ k = l := by simpa using parts
      exact ⟨t, rfl⟩
    | _ => cases equal

theorem unary {s : Nat} {op : UnaryOperator} {x y : Item} {k : Kind} (h : Same (.unary s op x k) y) :
    ∃ t z j, y = .unary t op z j ∧ Same x z := by
  rcases same_iff.1 h with identity | equal
  · cases identity
  · cases y with
    | unary t p z j =>
      rw [equals] at equal
      split at equal
      next same => exact ⟨t, z, j, by rw [same], equal⟩
      next => cases equal
    | _ => cases equal

theorem binary {s : Nat} {op : BinaryOperator} {l r y : Item} {k : Kind}
    (h : Same (.binary s op l r k) y) :
    ∃ t m n j, y = .binary t op m n j ∧ Same l m ∧ Same r n := by
  rcases same_iff.1 h with identity | equal
  · cases identity
  · cases y with
    | binary t p m n j =>
      rw [equals] at equal
      split at equal
      next same =>
        obtain ⟨left, right⟩ := both_ok.1 equal
        exact ⟨t, m, n, j, by rw [same], left, right⟩
      next => cases equal
    | _ => cases equal

end Same

theorem equals_numeric {x y : Item} {p q : Numeric} (left : x.numeric? = some p)
    (right : y.numeric? = some q) :
    x.equals y = if (x.isSignaling || y.isSignaling) && p.point.im.equal q.point.im then .error .uncomparable
      else .ok (p.point.re.equal q.point.re && p.point.im.equal q.point.im) := by
  cases x <;> cases left <;> cases y <;> cases right <;> rfl

end Item

/-- An equivalence among the members of a domain. -/
structure EquivalenceOn {α : Type} (D : α → Prop) (R : α → α → Prop) : Prop where
  refl {x : α} : D x → R x x
  symm {x y : α} : D x → D y → R x y → R y x
  trans {x y z : α} : D x → D y → D z → R x y → R y z → R x z

theorem EquivalenceOn.forall₂ {α : Type} {D : α → Prop} {R : α → α → Prop} (h : EquivalenceOn D R) :
    EquivalenceOn (fun xs => ∀ x ∈ xs, D x) (List.Forall₂ R) where
  refl within := List.forall₂_same.2 fun x among => h.refl (within x among)
  symm {xs ys} left right same := by
    induction same with
    | nil => exact .nil
    | cons first rest ih =>
      rw [List.forall_mem_cons] at left right
      exact .cons (h.symm left.1 right.1 first) (ih left.2 right.2)
  trans {xs ys zs} left middle right first second := by
    induction first generalizing zs with
    | nil => exact second
    | cons here rest ih =>
      cases second with
      | cons here' rest' =>
        rw [List.forall_mem_cons] at left middle right
        exact .cons (h.trans left.1 middle.1 right.1 here here') (ih left.2 middle.2 right.2 rest')

/-- What equality looks at in an item, but for its parts. Classes of numbers and of tuples are not in it, nor
are the serials and the kinds of nodes. -/
inductive Head where
  | plain (x : Item)
  -- a number by its exact value; one that is no number is equal to `only` itself
  | number (value : Point) (only : Option Item)
  | meters (serial : Nat)
  | clock (serial : Nat)
  | variable (name : String) (kind : Kind)
  | tuple
  | list
  | dict
  | set
  | unary (op : UnaryOperator)
  | binary (op : BinaryOperator)

namespace Item

def head : Item → Head
  | .tuple .. => .tuple
  | .list _ => .list
  | .dict .. => .dict
  | .set _ => .set
  | .meters s _ _ => .meters s
  | .clock s _ => .clock s
  | .placeholder _ n k => .variable n k
  | .unary _ op _ _ => .unary op
  | .binary _ op _ _ _ => .binary op
  | x => match x.numeric? with
    | some p => .number p.point (if p.isNan then some x else Option.none)
    | Option.none => .plain x

def ordered : Item → List Item
  | .tuple _ xs | .list xs => xs
  | .unary _ _ x _ => [x]
  | .binary _ _ l r _ => [l, r]
  | _ => []

-- The parts that are compared in any order. A set stands for a dictionary of its members.
def entries : Item → List (Item × Item)
  | .dict ks vs => ks.zip vs
  | .set xs => xs.zip xs
  | _ => []

theorem ordered_lt {x p : Item} (part : p ∈ x.ordered) : sizeOf p < sizeOf x := by
  cases x with
  | tuple f xs =>
    have inside : sizeOf p < sizeOf xs := List.sizeOf_lt_of_mem part
    simp only [tuple.sizeOf_spec]
    omega
  | list xs =>
    have inside : sizeOf p < sizeOf xs := List.sizeOf_lt_of_mem part
    simp only [list.sizeOf_spec]
    omega
  | unary s op x k =>
    obtain rfl := List.mem_singleton.1 part
    simp only [unary.sizeOf_spec]
    omega
  | binary s op l r k =>
    simp only [ordered, List.mem_cons, List.not_mem_nil, or_false] at part
    simp only [binary.sizeOf_spec]
    rcases part with rfl | rfl <;> omega
  | _ => cases part

theorem entries_lt {x : Item} {e : Item × Item} (part : e ∈ x.entries) :
    sizeOf e.1 < sizeOf x ∧ sizeOf e.2 < sizeOf x := by
  cases x with
  | dict ks vs =>
    obtain ⟨key, value⟩ := List.of_mem_zip part
    have inside := List.sizeOf_lt_of_mem key
    have inside' := List.sizeOf_lt_of_mem value
    simp only [dict.sizeOf_spec]
    omega
  | set xs =>
    obtain ⟨key, value⟩ := List.of_mem_zip part
    have inside := List.sizeOf_lt_of_mem key
    have inside' := List.sizeOf_lt_of_mem value
    simp only [set.sizeOf_spec]
    omega
  | _ => cases part

@[elab_as_elim]
theorem comparing {motive : Item → Prop}
    (step : ∀ x, (∀ p ∈ x.ordered, motive p) → (∀ e ∈ x.entries, motive e.1 ∧ motive e.2) → motive x)
    (x : Item) : motive x :=
  step x (fun p part => have := ordered_lt part; comparing step p)
    fun e part => have := entries_lt part; ⟨comparing step e.1, comparing step e.2⟩
termination_by sizeOf x

-- Compared as a whole: it has no parts that are compared by themselves.
def isAtom : Item → Bool
  | tuple .. | list _ | dict .. | set _ | unary .. | binary .. => false
  | _ => true

end Item

theorem Extended.equal_iff {x y : Extended} : x.equal y = true ↔ x = y ∧ ∀ k, x ≠ .nan k := by
  cases x <;> cases y <;> simp [equal]

namespace Numeric

theorem regular_iff {p : Numeric} :
    p.isNan = false ↔ (∀ k, p.point.re ≠ .nan k) ∧ ∀ k, p.point.im ≠ .nan k := by
  have floats (x : Binary64) : x.isNan = false ↔ ∀ k, Extended.ofFloat x ≠ .nan k := by
    cases x <;> simp [Binary64.isNan, Extended.ofFloat, Extended.ofRat]
  cases p with
  | int | fraction => simp [isNan, point, Extended.ofRat]
  | float x => simp [isNan, point, floats]
  | complex z => simp [isNan, point, floats]
  | decimal d =>
    cases d with
    | finite s c e => simp [isNan, point, Decimal.isNan, Extended.ofDecimal_finite, Extended.ofRat]
    | infinite | nan => simp [isNan, point, Decimal.isNan, Extended.ofDecimal]

theorem equal_points {p q : Numeric} :
    (p.point.re.equal q.point.re && p.point.im.equal q.point.im) = true ↔
      p.point = q.point ∧ p.isNan = false := by
  have parts : p.point = q.point ↔ p.point.re = q.point.re ∧ p.point.im = q.point.im :=
    Iff.of_eq (Point.mk.injEq ..)
  rw [Bool.and_eq_true, Extended.equal_iff, Extended.equal_iff, regular_iff, parts]
  tauto

end Numeric

namespace Item

theorem head_number {x : Item} {p : Numeric} (number : x.numeric? = some p) :
    x.head = .number p.point (if p.isNan then some x else Option.none) := by
  cases x <;> cases number <;> rfl

theorem silent_of_regular {x : Item} {p : Numeric} (number : x.numeric? = some p)
    (regular : p.isNan = false) : x.isSignaling = false := by
  cases x with
  | decimal d =>
    cases number
    cases d with
    | nan => cases regular
    | _ => rfl
  | _ => rfl

theorem identical_of_nan {x : Item} {p : Numeric} (number : x.numeric? = some p) (nan : p.isNan = true) :
    identical x x = true := by
  cases x <;> cases number <;> first
    | exact beq_self_eq_true _
    | cases nan

theorem equals_numbers {x y : Item} {p q : Numeric} (left : x.numeric? = some p)
    (right : y.numeric? = some q) :
    x.equals y = .ok true ↔ p.point = q.point ∧ p.isNan = false ∧ q.isNan = false := by
  rw [equals_numeric left right]
  constructor
  · intro equal
    split at equal
    · cases equal
    · obtain ⟨value, regular⟩ := Numeric.equal_points.1 (Except.ok.inj equal)
      refine ⟨value, regular, ?_⟩
      rwa [Numeric.regular_iff, ← value, ← Numeric.regular_iff]
  · rintro ⟨value, regular, regular'⟩
    rw [silent_of_regular left regular, silent_of_regular right regular']
    exact congrArg Except.ok (Numeric.equal_points.2 ⟨value, regular⟩)

theorem same_numbers {x y : Item} {p q : Numeric} (left : x.numeric? = some p) (right : y.numeric? = some q) :
    Same x y ↔ x.head = y.head := by
  constructor
  · intro same
    rcases same.cases with rfl | equal
    · rfl
    · obtain ⟨value, regular, regular'⟩ := (equals_numbers left right).1 equal
      rw [head_number left, head_number right, value, regular, regular']
      rfl
  · intro same
    rw [head_number left, head_number right, Head.number.injEq] at same
    obtain ⟨value, only⟩ := same
    cases nan : p.isNan <;> cases other : q.isNan <;> simp only [nan, other] at only
    · exact .of_equals ((equals_numbers left right).2 ⟨value, nan, other⟩)
    · cases only
    · cases only
    · -- a value that is no number is the only one with its head
      obtain rfl : x = y := Option.some.inj only
      exact same_iff.2 (.inl (identical_of_nan left nan))

theorem same_number_other {x y : Item} {p : Numeric} (left : x.numeric? = some p)
    (right : y.numeric? = Option.none) : ¬ Same x y ∧ x.head ≠ y.head := by
  cases x <;> cases left <;> cases y <;> cases right <;> constructor <;> intro same <;> cases same

theorem same_other {x y : Item} (atom : x.isAtom) (other : x.numeric? = Option.none) :
    Same x y ↔ x.head = y.head := by
  have compared {α : Type} [BEq α] [LawfulBEq α] {a b : α} :
      (Except.ok (a == b) : Except Failure Bool) = .ok true ↔ a = b := by simp
  cases x with
  | tuple | list | dict | set | unary | binary => cases atom
  | bool | int | celsius | float | complex | fraction | decimal => cases other
  | none | ellipsis =>
    cases y <;> first
      | exact iff_of_true rfl rfl
      | exact iff_of_false (fun same => by cases same) fun same => by cases same
  | str | bytes | meters | clock =>
    cases y <;> first
      | exact compared.trans ⟨fun same => same ▸ rfl, fun same => by cases same; rfl⟩
      | exact iff_of_false (fun same => by cases same) fun same => by cases same
  | placeholder s n k =>
    constructor
    · intro same
      obtain ⟨t, rfl⟩ := same.placeholder
      rfl
    · intro same
      cases y with
      | placeholder t m l =>
        cases same
        exact congrArg Except.ok (by simp)
      | _ => cases same

theorem same_atom {x y : Item} (atom : x.isAtom) : Same x y ↔ x.head = y.head := by
  cases number : x.numeric? with
  | none => exact same_other atom number
  | some p =>
    cases number' : y.numeric? with
    | none => exact iff_of_false (same_number_other number number').1 (same_number_other number number').2
    | some q => exact same_numbers number number'

-- Entries of the one found among those of the other, and none left over.
def SameEntries (es fs : List (Item × Item)) : Prop :=
  es.length = fs.length ∧ matched (es.map againstEntry) fs = .ok true

theorem same_iff_parts {x y : Item} :
    Same x y ↔ x.head = y.head ∧ List.Forall₂ Same x.ordered y.ordered ∧ SameEntries x.entries y.entries := by
  have one {a b : Item} : List.Forall₂ Same [a] [b] ↔ Same a b := by simp
  have two {a b c d : Item} : List.Forall₂ Same [a, b] [c, d] ↔ Same a c ∧ Same b d := by simp
  have empty : SameEntries [] [] := ⟨rfl, rfl⟩
  cases x with
  | tuple f xs =>
    constructor
    · intro same
      obtain ⟨g, ys, rfl, parts⟩ := same.tuple
      exact ⟨rfl, parts, empty⟩
    · rintro ⟨heads, parts, -⟩
      cases y with
      | tuple g ys => exact .of_equals (equalsAll_ok.2 parts)
      | _ => cases heads
  | list xs =>
    cases y with
    | list ys =>
      refine ⟨fun same => ⟨rfl, same.list, empty⟩, fun same => .of_equals ?_⟩
      have parts : List.Forall₂ Same xs ys := same.2.1
      rw [equals, if_pos parts.length_eq]
      exact equalsAll_ok.2 parts
    | _ => exact iff_of_false (fun same => by cases same) fun same => by cases same.1
  | dict ks vs =>
    cases y with
    | dict ls ws => exact equalsEntries_ok.trans ⟨fun found => ⟨rfl, .nil, found⟩, fun same => same.2.2⟩
    | _ => exact iff_of_false (fun same => by cases same) fun same => by cases same.1
  | set xs =>
    cases y with
    | set ys => exact equalsEntries_ok.trans ⟨fun found => ⟨rfl, .nil, found⟩, fun same => same.2.2⟩
    | _ => exact iff_of_false (fun same => by cases same) fun same => by cases same.1
  | unary s op x k =>
    constructor
    · intro same
      obtain ⟨t, z, j, rfl, operand⟩ := same.unary
      exact ⟨rfl, one.2 operand, empty⟩
    · rintro ⟨heads, parts, -⟩
      cases y with
      | unary t p z j =>
        obtain rfl := Head.unary.inj heads
        refine .of_equals ?_
        rw [equals, if_pos rfl]
        exact one.1 parts
      | _ => cases heads
  | binary s op l r k =>
    constructor
    · intro same
      obtain ⟨t, m, n, j, rfl, left, right⟩ := same.binary
      exact ⟨rfl, two.2 ⟨left, right⟩, empty⟩
    · rintro ⟨heads, parts, -⟩
      cases y with
      | binary t p m n j =>
        obtain rfl := Head.binary.inj heads
        refine .of_equals ?_
        rw [equals, if_pos rfl, both_ok]
        exact two.1 parts
      | _ => cases heads
  | _ =>
    refine (same_atom rfl).trans ⟨fun heads => ⟨heads, ?_⟩, And.left⟩
    cases y <;> first
      | exact ⟨.nil, empty⟩
      | cases heads

def under (k : Item) (es : List (Item × Item)) : List Item :=
  (es.filter fun e => agrees (against k e.1)).map Prod.snd

section Entries

variable {k : Item} {e f : Item × Item} {es fs gs : List (Item × Item)}

theorem under_cons_same (same : Same k e.1) : under k (e :: es) = e.2 :: under k es := by
  have passes : agrees (against k e.1) = true := agrees_iff.2 same
  rw [under, List.filter_cons, if_pos passes]
  rfl

theorem under_cons_other (other : ¬ Same k e.1) : under k (e :: es) = under k es := by
  have fails : ¬ agrees (against k e.1) = true := mt agrees_iff.1 other
  rw [under, List.filter_cons, if_neg fails]
  rfl

theorem under_append : under k (es ++ fs) = under k es ++ under k fs := by
  rw [under, List.filter_append, List.map_append]
  rfl

theorem under_none (none : ∀ e ∈ es, ¬ Same k e.1) : under k es = [] := by
  have empty : es.filter (fun e => agrees (against k e.1)) = [] :=
    List.filter_eq_nil_iff.2 fun e among => mt agrees_iff.1 (none e among)
  rw [under, empty]
  rfl

theorem mem_under {v : Item} (among : v ∈ under k es) : ∃ e ∈ es, e.2 = v := by
  obtain ⟨e, kept, rfl⟩ := List.mem_map.1 among
  exact ⟨e, List.mem_of_mem_filter kept, rfl⟩

variable {D : Item → Prop}

theorem under_first (alike : EquivalenceOn D Same) (within : D k) (left : D e.1) (right : D f.1)
    (skipped : ∀ g ∈ fs, D g.1) (before : ∀ g ∈ fs, ¬ Same e.1 g.1) (key : Same e.1 f.1) :
    List.Forall₂ Same (under k (e :: es)) (under k (fs ++ f :: gs)) ↔
      (Same k e.1 → Same e.2 f.2) ∧ List.Forall₂ Same (under k es) (under k (fs ++ gs)) := by
  rw [under_append, under_append]
  by_cases same : Same k e.1
  · have none : under k fs = [] := under_none fun g among same' =>
      before g among (alike.trans left within (skipped g among) (alike.symm within left same) same')
    rw [none, under_cons_same same, under_cons_same (alike.trans within left right same key)]
    simp [same]
  · have other : ¬ Same k f.1 := fun same' =>
      same (alike.trans within right left same' (alike.symm left right key))
    rw [under_cons_other same, under_cons_other other]
    simp [same]

theorem sameEntries_iff (alike : EquivalenceOn D Same) (left : ∀ e ∈ es, D e.1) (right : ∀ f ∈ fs, D f.1) :
    SameEntries es fs ↔ ∀ k, D k → List.Forall₂ Same (under k es) (under k fs) := by
  induction es generalizing fs with
  | nil =>
    constructor
    · rintro ⟨length, -⟩ k -
      rw [List.eq_nil_of_length_eq_zero length.symm]
      exact .nil
    · intro same
      cases fs with
      | nil => exact ⟨rfl, rfl⟩
      | cons f fs =>
        have key := right f List.mem_cons_self
        have values := same f.1 key
        rw [under_cons_same (alike.refl key)] at values
        cases values
  | cons e es ih =>
    rw [List.forall_mem_cons] at left
    constructor
    · rintro ⟨length, same⟩ k within
      obtain ⟨before, f, behind, rfl, others, key, value, rest⟩ := matched_cons.1 same
      rw [List.forall_mem_append, List.forall_mem_cons] at right
      have shorter : es.length = (before ++ behind).length := by
        simp only [List.length_cons, List.length_append] at length ⊢
        omega
      refine (under_first alike within left.1 right.2.1 right.1 others key).2 ⟨fun _ => value, ?_⟩
      exact (ih left.2 (List.forall_mem_append.2 ⟨right.1, right.2.2⟩)).1 ⟨shorter, rest⟩ k within
    · intro same
      cases found : fs.find? (finds e) with
      | none =>
        have missing : ∀ f ∈ fs, ¬ Same e.1 f.1 := fun f among =>
          mt finds_iff.2 (List.find?_eq_none.1 found f among)
        have values := same e.1 left.1
        rw [under_cons_same (alike.refl left.1), under_none missing] at values
        cases values
      | some f =>
        obtain ⟨before, behind, rfl, others, key⟩ := find_first.1 found
        rw [List.forall_mem_append, List.forall_mem_cons] at right
        have parted (k : Item) (within : D k) :=
          (under_first alike within left.1 right.2.1 right.1 others key).1 (same k within)
        obtain ⟨shorter, rest⟩ := (ih left.2 (List.forall_mem_append.2 ⟨right.1, right.2.2⟩)).2
          fun k within => (parted k within).2
        refine ⟨by simp only [List.length_cons, List.length_append] at shorter ⊢; omega, ?_⟩
        have value := (parted e.1 left.1).1 (alike.refl left.1)
        exact matched_cons.2 ⟨before, f, behind, rfl, others, key, value, rest⟩

end Entries

theorem equivalence_below (n : Nat) : EquivalenceOn (fun x : Item => sizeOf x < n) Same := by
  induction n with
  | zero => exact ⟨nofun, nofun, nofun⟩
  | succ n smaller =>
    have ordered {x : Item} (small : sizeOf x < n + 1) : ∀ p ∈ x.ordered, sizeOf p < n := fun p part => by
      have inside := ordered_lt part
      omega
    have keys {x : Item} (small : sizeOf x < n + 1) : ∀ e ∈ x.entries, sizeOf e.1 < n := fun e part => by
      have inside := entries_lt part
      omega
    have values {x : Item} (small : sizeOf x < n + 1) (k : Item) : ∀ v ∈ under k x.entries, sizeOf v < n :=
      fun v among => by
        obtain ⟨e, part, rfl⟩ := mem_under among
        have inside := entries_lt part
        omega
    have parts {x y : Item} (left : sizeOf x < n + 1) (right : sizeOf y < n + 1) :
        Same x y ↔ x.head = y.head ∧ List.Forall₂ Same x.ordered y.ordered ∧
          ∀ k, sizeOf k < n → List.Forall₂ Same (under k x.entries) (under k y.entries) := by
      rw [same_iff_parts, sameEntries_iff smaller (keys left) (keys right)]
    have lists := smaller.forall₂
    constructor
    case refl =>
      intro x small
      exact (parts small small).2 ⟨rfl, lists.refl (ordered small), fun k _ => lists.refl (values small k)⟩
    case symm =>
      intro x y left right same
      obtain ⟨heads, same, under⟩ := (parts left right).1 same
      refine (parts right left).2 ⟨heads.symm, lists.symm (ordered left) (ordered right) same, fun k within => ?_⟩
      exact lists.symm (values left k) (values right k) (under k within)
    case trans =>
      intro x y z left middle right first second
      obtain ⟨heads, same, under⟩ := (parts left middle).1 first
      obtain ⟨heads', same', under'⟩ := (parts middle right).1 second
      refine (parts left right).2 ⟨heads.trans heads', ?_, fun k within => ?_⟩
      · exact lists.trans (ordered left) (ordered middle) (ordered right) same same'
      · exact lists.trans (values left k) (values middle k) (values right k) (under k within) (under' k within)

theorem same_equivalence : Equivalence Same where
  refl x := (equivalence_below (sizeOf x + 1)).refl (by omega)
  symm {x y} same := (equivalence_below (sizeOf x + sizeOf y + 1)).symm (by omega) (by omega) same
  trans {x y z} first second :=
    (equivalence_below (sizeOf x + sizeOf y + sizeOf z + 1)).trans (by omega) (by omega) (by omega) first second

end Item

end Deferred
