import Deferred.Number.ComplexFloat
import Mathlib.Algebra.Order.Field.Rat
import Mathlib.Data.Option.Defs
import Mathlib.Tactic.FieldSimp
import Mathlib.Tactic.Linarith
import Mathlib.Tactic.Positivity

-- Floating-point operations on operands of the same value. The sign of a zero shows in a division by it and nowhere
-- else.

set_option autoImplicit false

namespace Deferred

namespace Binary64

theorem scale_pos (e : Int) : (0 : Rat) < 2 ^ e := zpow_pos (by norm_num) e

theorem scaled_eq (s : Bool) (m : Nat) (e : Int) :
    scaled s m e = (if s then -(m : Rat) else m) * (2 : Rat) ^ e := by
  have sign : (((if s then -(m : Int) else m) : Int) : Rat) = if s then -(m : Rat) else m := by
    cases s <;> simp
  unfold scaled
  dsimp only
  split
  next whole =>
    obtain ⟨k, rfl⟩ := Int.eq_ofNat_of_zero_le whole
    rw [Int.cast_mul, sign]
    simp
  next small =>
    obtain ⟨k, rfl⟩ : ∃ k : Nat, e = -k := ⟨(-e).toNat, by omega⟩
    rw [Rat.mkRat_eq_div, sign, div_eq_mul_inv]
    simp

theorem scaled_not (s : Bool) (m : Nat) (e : Int) : scaled (!s) m e = -scaled s m e := by
  rw [scaled_eq, scaled_eq]
  cases s <;> simp

theorem scaled_eq_zero {s : Bool} {m : Nat} {e : Int} : scaled s m e = 0 ↔ m = 0 := by
  have scale : (2 : Rat) ^ e ≠ 0 := (scale_pos e).ne'
  rw [scaled_eq, mul_eq_zero]
  cases s <;> simp [scale]

theorem scaled_neg {s : Bool} {m : Nat} {e : Int} : scaled s m e < 0 ↔ s = true ∧ m ≠ 0 := by
  have size : (0 : Rat) ≤ m := Nat.cast_nonneg m
  rw [scaled_eq]
  cases s with
  | false => simpa using mul_nonneg size (scale_pos e).le
  | true => simp [mul_pos_iff_of_pos_right (scale_pos e), Nat.pos_iff_ne_zero]

/-- Both are the same number, or infinite on the same side, or the same value that is none. -/
inductive Alike : Binary64 → Binary64 → Prop
  | finite {s t : Bool} {m n : Nat} {e f : Int} (value : scaled s m e = scaled t n f) :
      Alike (.finite s m e) (.finite t n f)
  | infinite (s : Bool) : Alike (.infinite s) (.infinite s)
  | nan (k : Nat) : Alike (.nan k) (.nan k)

namespace Alike

variable {x y u v : Binary64}

theorem refl (x : Binary64) : x.Alike x := by
  cases x with
  | finite s m e => exact .finite rfl
  | infinite s => exact .infinite s
  | nan k => exact .nan k

theorem zero {s t : Bool} {m n : Nat} {e f : Int} (value : scaled s m e = scaled t n f) :
    m = 0 ↔ n = 0 := by
  rw [← scaled_eq_zero (s := s) (e := e), value, scaled_eq_zero]

theorem isZero (h : x.Alike u) : x.isZero = u.isZero := by
  cases h with
  | finite value =>
    rw [Bool.eq_iff_iff]
    simpa [Binary64.isZero] using zero value
  | infinite | nan => rfl

theorem isNegative (h : x.Alike u) (nonzero : x.isZero = false) : x.isNegative = u.isNegative := by
  have other := h.isZero.symm.trans nonzero
  cases h with
  | finite value =>
    have negative := congrArg (· < 0) value
    simp only [scaled_neg, eq_iff_iff] at negative
    simp only [Binary64.isZero, beq_eq_false_iff_ne] at nonzero other
    rw [Bool.eq_iff_iff]
    simpa [Binary64.isNegative, nonzero, other] using negative
  | infinite | nan => rfl

theorem ofRat (b c : Bool) (q : Rat) : (Binary64.ofRat b q).Alike (Binary64.ofRat c q) := by
  unfold Binary64.ofRat
  split
  · exact .finite (by rw [scaled_eq_zero.2 rfl, scaled_eq_zero.2 rfl])
  · exact refl _

theorem neg (h : x.Alike u) : x.neg.Alike u.neg := by
  cases h with
  | finite value => exact .finite (by rw [scaled_not, scaled_not, value])
  | infinite s => exact .infinite _
  | nan k => exact .nan 0

theorem add (h : x.Alike u) (g : y.Alike v) : (x.add y).Alike (u.add v) := by
  cases h with
  | finite value =>
    cases g with
    | finite other => rw [Binary64.add, Binary64.add, value, other]; exact ofRat _ _ _
    | infinite s => exact .infinite s
    | nan k => exact .nan 0
  | infinite s =>
    cases g with
    | finite other => exact .infinite s
    | infinite t => exact refl _
    | nan k => exact .nan 0
  | nan k => cases g <;> exact .nan 0

theorem sub (h : x.Alike u) (g : y.Alike v) : (x.sub y).Alike (u.sub v) := h.add g.neg

theorem mul (h : x.Alike u) (g : y.Alike v) : (x.mul y).Alike (u.mul v) := by
  cases h with
  | finite value =>
    cases g with
    | finite other => rw [Binary64.mul, Binary64.mul, value, other]; exact ofRat _ _ _
    | infinite t =>
      have h := Alike.finite value
      simp only [Binary64.mul]
      rw [← h.isZero]
      split
      · exact .nan 0
      next nonzero => rw [h.isNegative (by simpa using nonzero)]; exact .infinite _
    | nan k => exact .nan 0
  | infinite s =>
    cases g with
    | nan k => exact .nan 0
    | infinite t => exact refl _
    | finite other =>
      have g := Alike.finite other
      simp only [Binary64.mul]
      rw [← g.isZero]
      split
      · exact .nan 0
      next nonzero => rw [g.isNegative (by simpa using nonzero)]; exact .infinite _
  | nan k => cases g <;> exact .nan 0

theorem div (h : x.Alike u) (g : y.Alike v) (sign : y.isZero = false ∨ y = v) :
    (x.div y).Alike (u.div v) := by
  have negative : y.isNegative = v.isNegative := by
    rcases sign with nonzero | rfl
    · exact g.isNegative nonzero
    · rfl
  cases h with
  | nan k => cases g <;> exact .nan 0
  | infinite s =>
    cases g with
    | nan k => exact .nan 0
    | infinite t => exact .nan 0
    | finite other => simp only [Binary64.div]; rw [negative]; exact .infinite _
  | finite value =>
    cases g with
    | nan k => exact .nan 0
    | infinite t =>
      simp only [Binary64.div]
      exact .finite (by rw [scaled_eq_zero.2 rfl, scaled_eq_zero.2 rfl])
    | finite other =>
      have h := Alike.finite value
      have g := Alike.finite other
      simp only [Binary64.isNegative] at negative
      simp only [Binary64.div, zero value, zero other, value, other]
      rw [negative]
      split
      · split
        · exact .nan 0
        next nonzero =>
          have same := h.isNegative (by simpa [Binary64.isZero, zero value] using nonzero)
          simp only [Binary64.isNegative] at same
          rw [same]
          exact .infinite _
      · exact ofRat _ _ _

theorem rem (h : x.Alike u) (g : y.Alike v) : (x.rem y).Alike (u.rem v) := by
  cases h with
  | nan k => cases g <;> exact .nan 0
  | infinite s => cases g <;> exact .nan 0
  | finite value =>
    cases g with
    | nan k => exact .nan 0
    | infinite t => exact .finite value
    | finite other =>
      simp only [Binary64.rem, zero other, value, other]
      split
      · exact .nan 0
      · exact ofRat _ _ _

theorem isNan (h : x.Alike u) : x.isNan = u.isNan := by cases h <;> rfl

theorem isInfinite (h : x.Alike u) : x.isInfinite = u.isInfinite := by cases h <;> rfl

theorem mod (h : x.Alike u) (g : y.Alike v) (nonzero : y.isZero = false) :
    (x.mod y).Alike (u.mod v) := by
  have r := h.rem g
  have sign := g.isNegative nonzero
  unfold Binary64.mod
  dsimp only
  rw [← r.isNan, ← r.isZero, ← sign]
  split
  · exact r
  · split
    · exact refl _
    next whole =>
      rw [← r.isNegative (by simpa using whole)]
      split
      · exact r.add g
      · exact r

theorem abs (h : x.Alike u) : x.abs.Alike u.abs := by
  cases h with
  | infinite s => exact .infinite false
  | nan k => exact .nan k
  | @finite s t m n e f value =>
    refine .finite ?_
    have first : scaled false m e = |scaled s m e| := by
      rw [scaled_eq, scaled_eq, abs_mul, abs_of_pos (scale_pos e)]
      cases s <;> simp
    have second : scaled false n f = |scaled t n f| := by
      rw [scaled_eq, scaled_eq, abs_mul, abs_of_pos (scale_pos f)]
      cases t <;> simp
    rw [first, second, value]

theorem le (h : x.Alike u) (g : y.Alike v) : x.le y = u.le v := by
  cases h with
  | finite value =>
    cases g with
    | finite other => rw [Binary64.le, Binary64.le, value, other]
    | infinite | nan => rfl
  | infinite | nan => cases g <;> rfl

theorem add_eq (h : x.Alike u) (g : y.Alike v)
    (apart : ∀ p q, x.toRat? = some p → y.toRat? = some q → p + q ≠ 0) : x.add y = u.add v := by
  cases h with
  | finite value =>
    cases g with
    | finite other =>
      have nonzero := apart _ _ rfl rfl
      rw [Binary64.add, Binary64.add, ← value, ← other]
      simp only [Binary64.ofRat, Rat.num_eq_zero, nonzero, if_false]
    | infinite | nan => rfl
  | infinite | nan => cases g <;> rfl

end Alike

end Binary64

namespace ComplexFloat

open Binary64 (scaled scaled_eq scale_pos)

structure Alike (z w : ComplexFloat) : Prop where
  re : z.re.Alike w.re
  im : z.im.Alike w.im

theorem ofQuotient_sign (s : Bool) (n d : Nat) :
    Binary64.ofQuotient s n d = .infinite s ∨ ∃ m e, Binary64.ofQuotient s n d = .finite s m e := by
  unfold Binary64.ofQuotient
  dsimp only
  split_ifs <;> first
    | exact .inl rfl
    | exact .inr ⟨_, _, rfl⟩

theorem ofRat_sign {b : Bool} {q p : Rat} (finite : (Binary64.ofRat b q).toRat? = some p) :
    0 ≤ p * q := by
  unfold Binary64.ofRat at finite
  split at finite
  next none => rw [Rat.num_eq_zero.1 none, mul_zero]
  next some =>
    rcases ofQuotient_sign (decide (q.num < 0)) q.num.natAbs q.den with infinite | ⟨m, e, rounded⟩
    · rw [infinite] at finite
      cases finite
    · rw [rounded] at finite
      obtain rfl := Option.some.inj finite
      have size : 0 ≤ (m : Rat) * 2 ^ e := mul_nonneg (Nat.cast_nonneg m) (scale_pos e).le
      rw [scaled_eq]
      rcases lt_or_ge q 0 with negative | positive
      · have left : decide (q.num < 0) = true := decide_eq_true (Rat.num_neg.2 negative)
        have product := mul_nonneg size (neg_nonneg.2 negative.le)
        rw [left]
        simpa using product
      · have right : decide (q.num < 0) = false := by simpa using positive
        have product := mul_nonneg size positive
        rw [right]
        simpa using product

theorem terms_apart {x y : Binary64} (nonzero : x.isZero = false) (larger : y.abs.le x.abs = true)
    {p q : Rat} (first : x.toRat? = some p) (second : (y.mul (y.div x)).toRat? = some q) : p + q ≠ 0 := by
  cases x with
  | infinite | nan => cases first
  | finite s m e =>
    obtain rfl := Option.some.inj first
    have some : m ≠ 0 := by simpa [Binary64.isZero] using nonzero
    have divisor : scaled s m e ≠ 0 := fun none => some (Binary64.scaled_eq_zero.1 none)
    cases y with
    | infinite | nan => cases larger
    | finite t n f =>
      simp only [Binary64.div, some, if_false] at second
      cases ratio : Binary64.ofRat (t != s) (scaled t n f / scaled s m e) with
      | nan k =>
        rw [ratio] at second
        cases second
      | infinite u =>
        rw [ratio] at second
        simp only [Binary64.mul] at second
        split at second <;> cases second
      | finite u k g =>
        rw [ratio] at second
        have side : 0 ≤ scaled u k g * (scaled t n f / scaled s m e) := ofRat_sign (by rw [ratio]; rfl)
        have same : 0 ≤ q * (scaled t n f * scaled u k g) := ofRat_sign second
        intro cancel
        obtain rfl : q = -scaled s m e := by linarith
        have square := mul_nonneg side (mul_self_nonneg (scaled s m e))
        have product : scaled u k g * (scaled t n f / scaled s m e) * (scaled s m e * scaled s m e) =
            scaled t n f * scaled u k g * scaled s m e := by field_simp
        have vanishing : scaled t n f * scaled u k g = 0 := by
          have both : scaled t n f * scaled u k g * scaled s m e = 0 := by linarith
          exact (mul_eq_zero.1 both).resolve_right divisor
        simp only [Binary64.mul, vanishing] at second
        have none := Option.some.inj second
        rw [Binary64.scaled_eq_zero.2 rfl] at none
        exact divisor (by linarith)

theorem zero_le {x y : Binary64} (zero : x.isZero = true) (comparable : y.abs.le x.abs = true) :
    x.abs.le y.abs = true := by
  cases x with
  | infinite | nan => cases zero
  | finite s m e =>
    obtain rfl : m = 0 := by simpa [Binary64.isZero] using zero
    cases y with
    | infinite | nan => cases comparable
    | finite t n f =>
      have size : 0 ≤ scaled false n f := not_lt.1 fun negative => by simpa using Binary64.scaled_neg.1 negative
      simpa [Binary64.abs, Binary64.le, Binary64.scaled_eq_zero.2] using size

namespace Alike

variable {z w u v : ComplexFloat}

theorem refl (z : ComplexFloat) : z.Alike z := ⟨.refl _, .refl _⟩

theorem ofReal {x y : Binary64} (h : x.Alike y) : (ComplexFloat.ofReal x).Alike (.ofReal y) :=
  ⟨h, .refl _⟩

theorem neg (h : z.Alike w) : z.neg.Alike w.neg := ⟨h.re.neg, h.im.neg⟩

theorem add (h : z.Alike w) (g : u.Alike v) : (z.add u).Alike (w.add v) :=
  ⟨h.re.add g.re, h.im.add g.im⟩

theorem sub (h : z.Alike w) (g : u.Alike v) : (z.sub u).Alike (w.sub v) :=
  ⟨h.re.sub g.re, h.im.sub g.im⟩

theorem mul (h : z.Alike w) (g : u.Alike v) : (z.mul u).Alike (w.mul v) :=
  ⟨(h.re.mul g.re).sub (h.im.mul g.im), (h.re.mul g.im).add (h.im.mul g.re)⟩

theorem div? (h : z.Alike w) (g : u.Alike v) : Option.Rel Alike (z.div? u) (w.div? v) := by
  unfold ComplexFloat.div?
  dsimp only
  rw [← g.im.abs.le g.re.abs, ← g.re.abs.le g.im.abs, ← g.re.isZero]
  split
  next larger =>
    split
    · exact .none
    next some =>
      have nonzero : u.re.isZero = false := by simpa using some
      have ratio := g.im.div g.re (.inl nonzero)
      have denom := g.re.add_eq (g.im.mul ratio) fun p q => terms_apart nonzero larger
      have divisor := Binary64.Alike.refl (u.re.add (u.im.mul (u.im.div u.re)))
      rw [← denom]
      refine .some ⟨?_, ?_⟩
      · exact (h.re.add (h.im.mul ratio)).div divisor (.inr rfl)
      · exact (h.im.sub (h.re.mul ratio)).div divisor (.inr rfl)
  next smaller =>
    split
    next larger =>
      have nonzero : u.im.isZero = false := by
        by_contra zero
        exact smaller (zero_le (by simpa using zero) larger)
      have ratio := g.re.div g.im (.inl nonzero)
      have denom := (g.re.mul ratio).add_eq g.im fun p q first second cancel =>
        terms_apart nonzero larger second first ((add_comm q p).trans cancel)
      have divisor := Binary64.Alike.refl ((u.re.mul (u.re.div u.im)).add u.im)
      rw [← denom]
      refine .some ⟨?_, ?_⟩
      · exact ((h.re.mul ratio).add h.im).div divisor (.inr rfl)
      · exact ((h.im.mul ratio).sub h.re).div divisor (.inr rfl)
    · exact .some (.refl _)

end Alike

end ComplexFloat

end Deferred
