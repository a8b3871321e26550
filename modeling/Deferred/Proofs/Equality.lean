import Deferred.Proofs.Likeness

-- What equality makes of items that are equal in every part.

set_option autoImplicit false

namespace Deferred

open Outcome

namespace Extended

theorem equal_ofRat {p q : Rat} : (ofRat p).equal (ofRat q) = true ↔ p = q := by
  constructor
  · intro same
    obtain ⟨num, den⟩ : p.num = q.num ∧ p.den = q.den := by simpa [ofRat, equal] using same
    exact Rat.ext num den
  · rintro rfl
    simp [ofRat, equal]

theorem floats_alike {x y : Binary64} (same : (ofFloat x).equal (ofFloat y) = true) : x.Alike y := by
  cases x with
  | nan k => cases same
  | infinite s =>
    cases y with
    | nan k => cases same
    | infinite t =>
      obtain rfl : s = t := by simpa [ofFloat, equal] using same
      exact .infinite s
    | finite t n f => simp [ofFloat, ofRat, equal] at same
  | finite s m e =>
    cases y with
    | nan k => cases same
    | infinite t => simp [ofFloat, ofRat, equal] at same
    | finite t n f => exact .finite (equal_ofRat.1 same)

theorem equal_floats {x y : Binary64} (h : x.Alike y) (number : x.isNan = false) :
    (ofFloat x).equal (ofFloat y) = true := by
  cases h with
  | finite value => exact equal_ofRat.2 value
  | infinite s => simp [ofFloat, equal]
  | nan k => cases number

end Extended

namespace Decimal

def zeroSign? : Decimal → Option Bool
  | finite s c _ => if c = 0 then some s else none
  | _ => none

theorem magnitude_pos {c : Nat} (e : Int) (some : c ≠ 0) : (0 : Rat) < c * 10 ^ e :=
  mul_pos (Nat.cast_pos.2 (Nat.pos_of_ne_zero some)) (scale_pos e)

theorem signed_eq {s t : Bool} {c d : Nat} {e f : Int}
    (value : (if s then -(c : Rat) else c) * 10 ^ e = (if t then -(d : Rat) else d) * 10 ^ f)
    (zero : (finite s c e).zeroSign? = (finite t d f).zeroSign?) :
    s = t ∧ (c : Rat) * 10 ^ e = d * 10 ^ f := by
  by_cases left : c = 0
  · by_cases right : d = 0
    · simpa [zeroSign?, left, right] using zero
    · simp [zeroSign?, left, right] at zero
  · by_cases right : d = 0
    · simp [zeroSign?, left, right] at zero
    · have first := magnitude_pos e left
      have second := magnitude_pos f right
      cases s <;> cases t <;> simp only [Bool.false_eq_true, if_false, if_true, neg_mul] at value
      · exact ⟨rfl, value⟩
      · linarith
      · linarith
      · exact ⟨rfl, neg_injective value⟩

end Decimal

namespace Extended

theorem decimals_alike {d u : Decimal} (same : (ofDecimal d).equal (ofDecimal u) = true)
    (zero : d.zeroSign? = u.zeroSign?) : d.Alike u := by
  cases d with
  | nan s q p k => cases same
  | infinite s =>
    cases u with
    | nan t q p k => cases same
    | infinite t =>
      obtain rfl : s = t := by simpa [ofDecimal, equal] using same
      exact .infinite s
    | finite t d f =>
      rw [ofDecimal_finite] at same
      cases same
  | finite s c e =>
    rw [ofDecimal_finite] at same
    cases u with
    | nan t q p k => cases same
    | infinite t => cases same
    | finite t d f =>
      rw [ofDecimal_finite, equal_ofRat] at same
      obtain ⟨rfl, value⟩ := Decimal.signed_eq same zero
      exact .finite value

theorem equal_decimals {d u : Decimal} (h : d.Alike u) (number : d.isNan = false) :
    (ofDecimal d).equal (ofDecimal u) = true := by
  cases h with
  | @finite s c d e f value =>
    rw [ofDecimal_finite, ofDecimal_finite, equal_ofRat]
    cases s <;> simp [value]
  | infinite s => simp [ofDecimal, equal]
  | nan => cases number

end Extended

namespace Item

namespace Same

theorem literal {x y : Item} (h : Same x y) (left : x.isLiteral) : y.isLiteral := by
  rcases h.cases with rfl | equal
  · exact left
  · cases y with
    | tuple | placeholder | unary | binary => cases x <;> first | cases left; done | cases equal
    | _ => rfl

theorem like {x y : Item} (h : Same x y) : x.Like y := by
  induction x using entering generalizing y with
  | literal x left => exact .equal left (h.literal left) h
  | tuple f xs ih =>
    obtain ⟨g, ys, rfl, parts⟩ := h.tuple
    refine .tuple ?_
    clear h
    induction parts with
    | nil => exact .nil
    | cons head tail rest =>
      exact .cons (ih _ List.mem_cons_self head) (rest fun x member => ih x (List.mem_cons_of_mem _ member))
  | placeholder s n k =>
    obtain ⟨t, rfl⟩ := h.placeholder
    exact .placeholder s t n k
  | unary s op x k ih =>
    obtain ⟨t, z, j, rfl, operand⟩ := h.unary
    exact .unary (ih operand)
  | binary s op l r k first second =>
    obtain ⟨t, m, n, j, rfl, left, right⟩ := h.binary
    exact .binary (first left) (second right)

end Same

end Item

namespace Numeric

def zeroSign? : Numeric → Option Bool
  | decimal d => d.zeroSign?
  | _ => none

theorem alike_of_equal {p q : Numeric} (kind : p.kind = q.kind) (zero : p.zeroSign? = q.zeroSign?)
    (re : p.point.re.equal q.point.re = true) (im : p.point.im.equal q.point.im = true) : p.Alike q := by
  cases p <;> cases q <;> cases kind
  case int.int.refl n m =>
    obtain rfl : n = m := by simpa [point, Extended.equal] using re
    exact .int n
  case float.float.refl => exact .float (Extended.floats_alike re)
  case complex.complex.refl => exact .complex ⟨Extended.floats_alike re, Extended.floats_alike im⟩
  case fraction.fraction.refl p q =>
    obtain rfl : p = q := Extended.equal_ofRat.1 re
    exact .fraction p
  case decimal.decimal.refl => exact .decimal (Extended.decimals_alike re zero)

theorem Alike.equal {p q : Numeric} (h : p.Alike q) (number : p.isNan = false) :
    p.point.re.equal q.point.re = true ∧ p.point.im.equal q.point.im = true := by
  have real : (Extended.finite 0 1).equal (.finite 0 1) = true := rfl
  cases h with
  | int n => exact ⟨by simp [point, Extended.equal], real⟩
  | float value => exact ⟨Extended.equal_floats value number, real⟩
  | complex value =>
    obtain ⟨re, im⟩ := Bool.or_eq_false_iff.1 number
    exact ⟨Extended.equal_floats value.re re, Extended.equal_floats value.im im⟩
  | fraction q => exact ⟨Extended.equal_ofRat.2 rfl, real⟩
  | decimal value => exact ⟨Extended.equal_decimals value number, real⟩

theorem Alike.isNan {p q : Numeric} (h : p.Alike q) : p.isNan = q.isNan := by
  cases h with
  | float value => exact value.isNan
  | complex value => rw [Numeric.isNan, Numeric.isNan, value.re.isNan, value.im.isNan]
  | decimal value => cases value <;> rfl
  | _ => rfl

end Numeric

theorem Kind.number_family (k : Kind) : k.family.number? = k.number? := by cases k <;> rfl

namespace Item

def isMeasure : Item → Bool
  | meters .. | clock .. => true
  | _ => false

def zeroSign? : Item → Option Bool
  | decimal d => d.zeroSign?
  | _ => Option.none

/-- What two literals have in common that no operator tells apart: their class, and the sign of a decimal zero.
A measure is equal to nothing but itself. -/
structure SameClass (x y : Item) : Prop where
  family : x.kind.family = y.kind.family
  zero : x.zeroSign? = y.zeroSign?
  measure : x.isMeasure → x = y

theorem zeroSign_numeric {x : Item} {p : Numeric} (number : x.numeric? = some p) :
    x.zeroSign? = p.zeroSign? := by
  cases x <;> cases number <;> rfl

theorem SameClass.numeric {x y : Item} {p : Numeric} (h : SameClass x y) (left : x.numeric? = some p) :
    ∃ q, y.numeric? = some q ∧ p.kind = q.kind := by
  have kinds : x.kind.number? = y.kind.number? := by
    rw [← x.kind.number_family, h.family, y.kind.number_family]
  rw [← x.kind_numeric, ← y.kind_numeric, left] at kinds
  obtain ⟨q, right, kind⟩ := Option.map_eq_some_iff.1 kinds.symm
  exact ⟨q, right, kind.symm⟩

theorem Same.number {x y : Item} {p : Numeric} (h : Same x y) (left : x.numeric? = some p)
    (common : SameClass x y) : x.Alike y := by
  rcases h.cases with rfl | equal
  · exact .same x
  · obtain ⟨q, right, kind⟩ := common.numeric left
    have zero := common.zero
    rw [zeroSign_numeric left, zeroSign_numeric right] at zero
    rw [equals_numeric left right] at equal
    split at equal
    · cases equal
    · obtain ⟨re, im⟩ := Bool.and_eq_true_iff.1 (Except.ok.inj equal)
      exact .number left right common.family (Numeric.alike_of_equal kind zero re im)

theorem Same.alike {x y : Item} (h : Same x y) (left : x.isLiteral) (common : SameClass x y) :
    x.Alike y := by
  rcases h.cases with rfl | equal
  · exact .same x
  · cases x with
    | none | ellipsis =>
      cases y <;> first
        | exact .same _
        | cases equal
    | str s =>
      cases y with
      | str t =>
        obtain rfl : s = t := eq_of_beq (Except.ok.inj equal)
        exact .same _
      | _ => cases equal
    | bytes s =>
      cases y with
      | bytes t =>
        obtain rfl : s = t := eq_of_beq (Except.ok.inj equal)
        exact .same _
      | _ => cases equal
    | list xs =>
      cases y with
      | list ys => exact .list (h.list.imp fun _ _ => Same.like)
      | _ => cases equal
    | dict ks vs =>
      cases y with
      | dict ls ws => exact .dict equal
      | _ => cases equal
    | set xs =>
      cases y with
      | set ys => exact .set equal
      | _ => cases equal
    | meters | clock =>
      obtain rfl := common.measure rfl
      exact .same _
    | tuple | placeholder | unary | binary => cases left
    | _ => exact h.number rfl common

/-- Nothing in it differs from itself: no measure, which is equal to no other, and no value that is no
number. -/
inductive Settled : Item → Prop
  | number {x : Item} {p : Numeric} (number : x.numeric? = some p) (regular : p.isNan = false) : Settled x
  | none : Settled .none
  | ellipsis : Settled .ellipsis
  | str (s : String) : Settled (.str s)
  | bytes (bs : List UInt8) : Settled (.bytes bs)
  | tuple {f : TupleForm} {xs : List Item} (parts : ∀ x ∈ xs, Settled x) : Settled (.tuple f xs)
  | list {xs : List Item} (parts : ∀ x ∈ xs, Settled x) : Settled (.list xs)
  | dict {ks vs : List Item} (keys : ∀ k ∈ ks, Settled k) (values : ∀ v ∈ vs, Settled v) :
      Settled (.dict ks vs)
  | set {xs : List Item} (parts : ∀ x ∈ xs, Settled x) : Settled (.set xs)
  | placeholder (s : Nat) (n : String) (k : Kind) : Settled (.placeholder s n k)
  | unary {s : Nat} {op : UnaryOperator} {x : Item} {k : Kind} (operand : Settled x) :
      Settled (.unary s op x k)
  | binary {s : Nat} {op : BinaryOperator} {l r : Item} {k : Kind} (left : Settled l)
      (right : Settled r) : Settled (.binary s op l r k)

theorem equals_alike {x y : Item} {p q : Numeric} (left : x.numeric? = some p)
    (right : y.numeric? = some q) (value : p.Alike q) (regular : p.isNan = false) :
    x.equals y = .ok true := by
  have silent {z : Item} {r : Numeric} (number : z.numeric? = some r) (regular : r.isNan = false) :
      z.isSignaling = false := by
    cases z <;> cases number <;> first
      | rfl
      | skip
    next d => cases d <;> first | rfl | cases regular
  obtain ⟨re, im⟩ := value.equal regular
  rw [equals_numeric left right, silent left regular, silent right (value.isNan ▸ regular), re, im]
  rfl

theorem same_parts {xs ys : List Item} (each : ∀ x ∈ xs, ∀ y, x.Like y → x.equals y = .ok true)
    (parts : List.Forall₂ Like xs ys) : equalsAll xs ys = .ok true := by
  rw [equalsAll_ok]
  induction parts with
  | nil => exact .nil
  | cons head tail ih =>
    have first := each _ List.mem_cons_self _ head
    exact .cons (.of_equals first) (ih fun x member => each x (List.mem_cons_of_mem _ member))

theorem Same.equals {x y : Item} (h : Same x y) (self : x.equals x = .ok true) : x.equals y = .ok true := by
  rcases h.cases with rfl | equal
  · exact self
  · exact equal

-- Neither a number nor a measure, and compared as a whole.
def isWhole : Item → Bool
  | none | ellipsis | str _ | bytes _ | dict .. | set _ => true
  | _ => false

theorem Like.equals_whole {x y : Item} (h : x.Like y) (whole : x.isWhole) (self : x.equals x = .ok true) :
    x.equals y = .ok true := by
  cases h with
  | same => exact self
  | equal left right equal => exact Same.equals equal self
  | number left => cases x <;> cases left <;> cases whole
  | _ => cases whole

theorem Settled.equals {x y : Item} (settled : x.Settled) (h : x.Like y) : x.equals y = .ok true := by
  induction settled generalizing y with
  | number number regular =>
    have self := equals_alike number number (.refl _) regular
    cases h with
    | same => exact self
    | equal left right equal => exact Same.equals equal self
    | number left right value =>
      cases number.symm.trans left
      exact equals_alike left right value regular
    | _ => cases number
  | none | ellipsis => exact h.equals_whole rfl rfl
  | str s => exact h.equals_whole rfl (congrArg Except.ok (beq_self_eq_true s))
  | bytes bs => exact h.equals_whole rfl (congrArg Except.ok (beq_self_eq_true bs))
  | tuple parts ih =>
    cases h with
    | same => exact same_parts (fun x member y => ih x member) (likes _)
    | tuple likes => exact same_parts (fun x member y => ih x member) likes
    | equal left => cases left
    | number left => cases left
  | @list xs parts ih =>
    have each {ys : List Item} (parts : List.Forall₂ Like xs ys) : (Item.list xs).equals (.list ys) = .ok true := by
      rw [Item.equals, if_pos parts.length_eq]
      exact same_parts (fun x member y => ih x member) parts
    cases h with
    | same => exact each (likes xs)
    | equal left right equal => exact Same.equals equal (each (likes xs))
    | list likes => exact each likes
    | number left => cases left
  | @dict ks vs keys values first second =>
    refine h.equals_whole rfl (equalsEntries_self (fun k among => ?_) fun v among => ?_)
    · exact .of_equals (first k among (.same k))
    · exact .of_equals (second v among (.same v))
  | @set xs parts ih =>
    have self : ∀ x ∈ xs, Same x x := fun x among => .of_equals (ih x among (.same x))
    exact h.equals_whole rfl (equalsEntries_self self self)
  | placeholder s n k =>
    have self (t : Nat) : (Item.placeholder s n k).equals (.placeholder t n k) = .ok true := by
      refine congrArg Except.ok ?_
      simp
    cases h with
    | same => exact self s
    | placeholder _ t => exact self t
    | equal left => cases left
    | number left => cases left
  | @unary s op x k operand ih =>
    have each {z : Item} (t : Nat) (j : Kind) (like : x.Like z) :
        (Item.unary s op x k).equals (.unary t op z j) = .ok true := by
      rw [Item.equals, if_pos rfl]
      exact Same.of_equals (ih like)
    cases h with
    | same => exact each s k (.same x)
    | unary like => exact each _ _ like
    | equal left => cases left
    | number left => cases left
  | @binary s op l r k left right first second =>
    have each {m n : Item} (t : Nat) (j : Kind) (before : l.Like m) (after : r.Like n) :
        (Item.binary s op l r k).equals (.binary t op m n j) = .ok true := by
      rw [Item.equals, if_pos rfl, both_ok]
      exact ⟨Same.of_equals (first before), Same.of_equals (second after)⟩
    cases h with
    | same => exact each s k (.same l) (.same r)
    | binary before after => exact each _ _ before after
    | equal left => cases left
    | number left => cases left

end Item

end Deferred
