import Deferred.Number.Decimal
import Deferred.Proofs.Outcome
import Mathlib.Algebra.Order.Floor.Semifield
import Mathlib.Data.Int.Log
import Mathlib.Data.Nat.Cast.Field
import Mathlib.Data.Rat.Floor
import Mathlib.Tactic.FieldSimp
import Mathlib.Tactic.Positivity
import Mathlib.Tactic.Linarith
import Mathlib.Tactic.Ring

-- What comes of a decimal operation depends on the values of its operands alone, not on the exponents that they are
-- written with.

set_option autoImplicit false

namespace Deferred

namespace Rounding

def even (x : Rat) : Nat :=
  let below := ⌊x⌋₊
  if x < below + 1 / 2 then below else if below + 1 / 2 < x then below + 1 else below + below % 2

theorem nearest_eq (n : Nat) {d : Nat} (positive : 0 < d) : nearest n d = even ((n : Rat) / d) := by
  have size : (0 : Rat) < d := Nat.cast_pos.2 positive
  have floor : ⌊(n : Rat) / d⌋₊ = n / d := Nat.floor_div_eq_div n d
  have parts : ((n / d : Nat) : Rat) * d + (n % d : Nat) = n := by
    exact_mod_cast Nat.div_add_mod' n d
  have under : (n : Rat) / d < (n / d : Nat) + 1 / 2 ↔ 2 * (n % d) < d := by
    rw [div_lt_iff₀ size, ← Nat.cast_lt (α := Rat)]
    push_cast
    constructor <;> intro h <;> linarith
  have above : ((n / d : Nat) : Rat) + 1 / 2 < (n : Rat) / d ↔ d < 2 * (n % d) := by
    rw [lt_div_iff₀ size, ← Nat.cast_lt (α := Rat)]
    push_cast
    constructor <;> intro h <;> linarith
  unfold nearest even
  simp only [floor, under, above]

theorem even_natCast (n : Nat) : even n = n := by
  have half : (n : Rat) < n + 1 / 2 := by linarith
  simp only [even, Nat.floor_natCast, half, if_true]

theorem even_congr {x y : Rat} (below : ∀ k : Nat, (k : Rat) / 2 ≤ x ↔ (k : Rat) / 2 ≤ y)
    (above : ∀ k : Nat, x ≤ (k : Rat) / 2 ↔ y ≤ (k : Rat) / 2) : even x = even y := by
  have floor : ⌊x⌋₊ = ⌊y⌋₊ := by
    refine eq_of_forall_le_iff fun k => ?_
    rcases Nat.eq_zero_or_pos k with rfl | positive
    · simp
    · rw [Nat.le_floor_iff' positive.ne', Nat.le_floor_iff' positive.ne']
      have whole := below (2 * k)
      push_cast at whole
      simpa using whole
  have half (z : Rat) (k : Nat) : (k : Rat) + 1 / 2 = ((2 * k + 1 : Nat) : Rat) / 2 := by
    push_cast
    ring
  have under : x < (⌊y⌋₊ : Rat) + 1 / 2 ↔ y < (⌊y⌋₊ : Rat) + 1 / 2 := by
    rw [half x, ← not_le, ← not_le, below]
  have above : (⌊y⌋₊ : Rat) + 1 / 2 < x ↔ (⌊y⌋₊ : Rat) + 1 / 2 < y := by
    rw [half x, ← not_le, ← not_le, above]
  unfold even
  simp only [floor, under, above]

theorem digitCount_le {n k : Nat} (positive : 0 < k) : digitCount n ≤ k ↔ n < 10 ^ k :=
  Nat.length_toDigits_le_iff (by norm_num) positive

theorem digitCount_pos (n : Nat) : 0 < digitCount n := Nat.length_toDigits_pos

theorem lt_pow_digitCount (n : Nat) : n < 10 ^ digitCount n := (digitCount_le (digitCount_pos n)).1 le_rfl

theorem pow_le_of_digitCount {n : Nat} (positive : 0 < n) : 10 ^ (digitCount n - 1) ≤ n := by
  rcases Nat.eq_or_lt_of_le (digitCount_pos n) with one | more
  · rw [← one]
    simpa using Nat.succ_le_of_lt positive
  · by_contra less
    have fewer := (digitCount_le (n := n) (k := digitCount n - 1) (by omega)).2 (by omega)
    omega

end Rounding

namespace Decimal

open Outcome

theorem scale_pos (e : Int) : (0 : Rat) < 10 ^ e := zpow_pos (by norm_num) e

/-- Both are the same number, with the same sign even if it is zero, or infinite on the same side, or the same
value that is no number. -/
inductive Alike : Decimal → Decimal → Prop
  | finite {s : Bool} {c d : Nat} {e f : Int} (value : (c : Rat) * 10 ^ e = d * 10 ^ f) :
      Alike (.finite s c e) (.finite s d f)
  | infinite (s : Bool) : Alike (.infinite s) (.infinite s)
  | nan (s q : Bool) (p k : Nat) : Alike (.nan s q p k) (.nan s q p k)

theorem Alike.refl (d : Decimal) : d.Alike d := by
  cases d with
  | finite s c e => exact .finite rfl
  | infinite s => exact .infinite s
  | nan s q p k => exact .nan s q p k

theorem log_scaled {c : Nat} (positive : 0 < c) (e : Int) :
    Int.log 10 ((c : Rat) * 10 ^ e) + 1 = Rounding.digitCount c + e := by
  have size : (0 : Rat) < c * 10 ^ e := mul_pos (Nat.cast_pos.2 positive) (scale_pos e)
  have lower : ((10 : Nat) : Rat) ^ (((Rounding.digitCount c - 1 : Nat) : Int) + e) ≤ c * 10 ^ e := by
    have low : ((10 ^ (Rounding.digitCount c - 1) : Nat) : Rat) ≤ c :=
      Nat.cast_le.2 (Rounding.pow_le_of_digitCount positive)
    rw [zpow_add₀ (by norm_num), zpow_natCast]
    push_cast at low ⊢
    exact mul_le_mul_of_nonneg_right low (scale_pos e).le
  have upper : (c : Rat) * 10 ^ e < ((10 : Nat) : Rat) ^ ((Rounding.digitCount c : Int) + e) := by
    have high : (c : Rat) < ((10 ^ Rounding.digitCount c : Nat) : Rat) :=
      Nat.cast_lt.2 (Rounding.lt_pow_digitCount c)
    rw [zpow_add₀ (by norm_num), zpow_natCast]
    push_cast at high ⊢
    exact mul_lt_mul_of_pos_right high (scale_pos e)
  have least := (Int.zpow_le_iff_le_log (by norm_num) size).1 lower
  have most := (Int.lt_zpow_iff_log_lt (by norm_num) size).1 upper
  have digits := Rounding.digitCount_pos c
  omega

def rounded (negative : Bool) (q : Rat) : Except Signal Decimal :=
  let least := Int.log 10 q + 1 - precision
  if top < least then .error .overflow
  else
    let least := max least tiny
    let c := Rounding.even (q / 10 ^ least)
    let (c, least) := if precision < Rounding.digitCount c then (c / 10, least + 1) else (c, least)
    if top < least then .error .overflow else .ok (.finite negative c least)

theorem nearest_small {c shift : Nat} (small : Rounding.digitCount c + 1 < shift) :
    Rounding.nearest c (Nat.pow 10 shift) = 0 := by
  have bound := Rounding.lt_pow_digitCount c
  have gap : 10 ^ Rounding.digitCount c * 10 ≤ 10 ^ shift := by
    rw [← Nat.pow_succ]
    exact Nat.pow_le_pow_right (by norm_num) small.le
  have power : Nat.pow 10 shift = 10 ^ shift := rfl
  have rest : c % 10 ^ shift = c := Nat.mod_eq_of_lt (by omega)
  rw [Rounding.nearest, power, rest, if_pos (by omega)]
  exact Nat.div_eq_of_lt (by omega)

theorem scaled_div (c : Nat) {e least : Int} (whole : least ≤ e) :
    (c : Rat) * 10 ^ e / 10 ^ least = ((c * 10 ^ (e - least).toNat : Nat) : Rat) := by
  have shift : ((e - least).toNat : Int) = e - least := Int.toNat_of_nonneg (by omega)
  push_cast
  rw [mul_div_assoc, ← zpow_natCast, shift, zpow_sub₀ (by norm_num)]

theorem scaled_div_small (c : Nat) {e least : Int} (below : e < least) :
    (c : Rat) * 10 ^ e / 10 ^ least = (c : Rat) / (Nat.pow 10 (least - e).toNat : Nat) := by
  have shift : ((least - e).toNat : Int) = least - e := Int.toNat_of_nonneg (by omega)
  have power : ((Nat.pow 10 (least - e).toNat : Nat) : Rat) = 10 ^ (least - e) := by
    rw [← shift, zpow_natCast]
    exact Nat.cast_pow 10 _
  rw [power, zpow_sub₀ (by norm_num)]
  field_simp

theorem fit_rounded (s : Bool) {c : Nat} (positive : 0 < c) (e : Int) :
    Related Alike Eq (fit s c e) (rounded s (c * 10 ^ e)) := by
  unfold fit rounded
  rw [if_neg positive.ne', log_scaled positive]
  dsimp only
  split
  · rfl
  next room =>
    set least := max ((Rounding.digitCount c : Int) + e - precision) tiny with least_eq
    have low : (Rounding.digitCount c : Int) + e - precision ≤ least := le_max_left _ _
    have fits : ¬ top < least := by
      have range : tiny ≤ top := by decide
      omega
    by_cases whole : least ≤ e
    · rw [if_pos whole, scaled_div c whole, Rounding.even_natCast]
      have short : ¬ precision < Rounding.digitCount (c * 10 ^ (e - least).toNat) := by
        have bound := Rounding.lt_pow_digitCount c
        have digits : Rounding.digitCount c + (e - least).toNat ≤ precision := by omega
        rw [not_lt, Rounding.digitCount_le (by decide)]
        calc c * 10 ^ (e - least).toNat < 10 ^ Rounding.digitCount c * 10 ^ (e - least).toNat :=
              Nat.mul_lt_mul_of_pos_right bound (by positivity)
          _ ≤ 10 ^ precision := by
              rw [← Nat.pow_add]
              exact Nat.pow_le_pow_right (by norm_num) digits
      simp only [short, fits, if_false]
      refine .finite ?_
      have value := scaled_div c whole
      rw [div_eq_iff (scale_pos least).ne'] at value
      exact value
    · have below : e < least := by omega
      have power : 0 < Nat.pow 10 (least - e).toNat := Nat.pow_pos (by norm_num)
      have digit : (if Rounding.digitCount c + 1 < (least - e).toNat then 0
          else Rounding.nearest c (Nat.pow 10 (least - e).toNat)) =
          Rounding.even ((c : Rat) * 10 ^ e / 10 ^ least) := by
        rw [scaled_div_small c below, ← Rounding.nearest_eq c power]
        split
        next small => exact (nearest_small small).symm
        next => rfl
      rw [if_neg whole, digit]
      exact Related.of_eq rfl Alike.refl fun _ => rfl

def fitted (negative : Bool) (q : Rat) : Except Signal Decimal :=
  if q = 0 then .ok (.finite negative 0 0) else rounded negative q

theorem scaled_pos {c : Nat} (positive : 0 < c) (e : Int) : (0 : Rat) < c * 10 ^ e :=
  mul_pos (Nat.cast_pos.2 positive) (scale_pos e)

theorem scaled_eq_zero {c : Nat} {e : Int} : (c : Rat) * 10 ^ e = 0 ↔ c = 0 := by
  rw [mul_eq_zero, Nat.cast_eq_zero, or_iff_left (scale_pos e).ne']

theorem fitted_pos (s : Bool) {q : Rat} (positive : 0 < q) : fitted s q = rounded s q :=
  if_neg positive.ne'

theorem fit_zero (s : Bool) (e : Int) : Related Alike Eq (fit s 0 e) (fitted s 0) :=
  .finite (by simp)

theorem fit_fitted (s : Bool) (c : Nat) (e : Int) : Related Alike Eq (fit s c e) (fitted s (c * 10 ^ e)) := by
  rcases Nat.eq_zero_or_pos c with rfl | positive
  · rw [Nat.cast_zero, zero_mul]
    exact fit_zero s e
  · rw [fitted_pos s (scaled_pos positive e)]
    exact fit_rounded s positive e

/-- The number `n · 10 ^ g` stands for `q`: they are on the same side of every fifth multiple of `10 ^ g`, and
there are more digits than a result keeps. -/
structure StandsFor (n : Nat) (g : Int) (q : Rat) : Prop where
  digits : precision < Rounding.digitCount n
  below : ∀ m : Nat, 5 ∣ m → ((m : Rat) * 10 ^ g ≤ q ↔ m ≤ n)
  above : ∀ m : Nat, 5 ∣ m → (q ≤ (m : Rat) * 10 ^ g ↔ n ≤ m)

namespace StandsFor

variable {n : Nat} {g : Int} {q : Rat}

theorem large (h : StandsFor n g q) : 10 ^ precision ≤ n := by
  by_contra small
  have fewer := (Rounding.digitCount_le (n := n) (by decide : 0 < precision)).2 (by omega)
  exact absurd h.digits (by omega)

theorem pos (h : StandsFor n g q) : 0 < q := by
  have five : (5 : Nat) ≤ n := le_trans (by decide) h.large
  have low := (h.below 5 (by norm_num)).2 five
  exact lt_of_lt_of_le (mul_pos (by norm_num) (scale_pos g)) low

theorem units (n : Nat) (g : Int) {k : Int} (above : g ≤ k) :
    ((n * 10 ^ (k - g).toNat : Nat) : Rat) * 10 ^ g = n * 10 ^ k := by
  have shift : ((k - g).toNat : Int) = k - g := Int.toNat_of_nonneg (by omega)
  push_cast
  rw [← zpow_natCast, shift, mul_assoc, ← zpow_add₀ (by norm_num), sub_add_cancel]

theorem pow_le (h : StandsFor n g q) (k : Int) : (10 : Rat) ^ k ≤ q ↔ (10 : Rat) ^ k ≤ n * 10 ^ g := by
  rcases le_or_gt k g with small | large
  · have low : (10 : Rat) ^ k ≤ 10 ^ g := zpow_le_zpow_right₀ (by norm_num) small
    have five : (5 : Nat) ≤ n := le_trans (by decide) h.large
    have left := (h.below 5 (by norm_num)).2 five
    have right : (5 : Rat) * 10 ^ g ≤ n * 10 ^ g :=
      mul_le_mul_of_nonneg_right (by exact_mod_cast five) (scale_pos g).le
    have unit := scale_pos g
    push_cast at left
    exact ⟨fun _ => by linarith, fun _ => by linarith⟩
  · have step : (k - g).toNat = (k - g).toNat - 1 + 1 := by omega
    have fifth : 5 ∣ 10 ^ (k - g).toNat := by
      rw [step, Nat.pow_succ]
      exact Dvd.dvd.mul_left (by norm_num) _
    have power := units 1 g large.le
    rw [Nat.one_mul, Nat.cast_one, one_mul] at power
    rw [← power, h.below _ fifth, mul_le_mul_iff_left₀ (scale_pos g), Nat.cast_le]

theorem log_eq (h : StandsFor n g q) : Int.log 10 q = Int.log 10 ((n : Rat) * 10 ^ g) := by
  have size : (0 : Rat) < n * 10 ^ g := scaled_pos (lt_of_lt_of_le (by decide) h.large) g
  refine eq_of_forall_le_iff fun k => ?_
  have same := h.pow_le k
  rw [← Int.zpow_le_iff_le_log (b := 10) (by norm_num) h.pos,
    ← Int.zpow_le_iff_le_log (b := 10) (by norm_num) size]
  exact_mod_cast same

theorem half (k : Nat) {least : Int} (kept : g < least) :
    ((k * 5 * 10 ^ (least - 1 - g).toNat : Nat) : Rat) * 10 ^ g = (k : Rat) / 2 * 10 ^ least := by
  rw [units (k * 5) g (by omega), zpow_sub_one₀ (by norm_num)]
  push_cast
  ring

theorem even_eq (h : StandsFor n g q) {least : Int} (kept : g < least) :
    Rounding.even (q / 10 ^ least) = Rounding.even ((n : Rat) * 10 ^ g / 10 ^ least) := by
  have fifth (k : Nat) : 5 ∣ k * 5 * 10 ^ (least - 1 - g).toNat :=
    Dvd.dvd.mul_right (Dvd.intro_left k rfl) _
  refine Rounding.even_congr (fun k => ?_) fun k => ?_
  · rw [le_div_iff₀ (scale_pos least), le_div_iff₀ (scale_pos least), ← half k kept, h.below _ (fifth k),
      mul_le_mul_iff_left₀ (scale_pos g), Nat.cast_le]
  · rw [div_le_iff₀ (scale_pos least), div_le_iff₀ (scale_pos least), ← half k kept, h.above _ (fifth k),
      mul_le_mul_iff_left₀ (scale_pos g), Nat.cast_le]

theorem rounded_eq (h : StandsFor n g q) (s : Bool) : rounded s q = rounded s (n * 10 ^ g) := by
  have size := log_scaled (lt_of_lt_of_le (by decide : 0 < 10 ^ precision) h.large) g
  have digits := h.digits
  unfold rounded
  rw [h.log_eq, size]
  dsimp only
  split
  · rfl
  · rw [h.even_eq]
    exact lt_of_lt_of_le (by omega) (le_max_left _ _)

end StandsFor

theorem standsFor_between {j n : Nat} {g : Int} {q : Rat} (lower : (j : Rat) * 10 ^ g < q)
    (upper : q < ((j + 1 : Nat) : Rat) * 10 ^ g) (near : n = j ∨ n = j + 1) (unfifth : ¬ 5 ∣ n)
    (digits : precision < Rounding.digitCount n) : StandsFor n g q := by
  have unit := scale_pos g
  refine ⟨digits, fun m fifth => ?_, fun m fifth => ?_⟩
  · have apart : m ≠ n := fun same => unfifth (same ▸ fifth)
    constructor
    · intro le
      have less : m < j + 1 := by
        have strict := lt_of_le_of_lt le upper
        rw [mul_lt_mul_iff_left₀ unit] at strict
        exact_mod_cast strict
      omega
    · intro le
      have under : (m : Rat) ≤ j := by exact_mod_cast (by omega : m ≤ j)
      exact (mul_le_mul_of_nonneg_right under unit.le).trans lower.le
  · have apart : m ≠ n := fun same => unfifth (same ▸ fifth)
    constructor
    · intro le
      have more : j < m := by
        have strict := lt_of_lt_of_le lower le
        rw [mul_lt_mul_iff_left₀ unit] at strict
        exact_mod_cast strict
      omega
    · intro le
      have above : ((j + 1 : Nat) : Rat) ≤ m := by exact_mod_cast (by omega : j + 1 ≤ m)
      exact upper.le.trans (mul_le_mul_of_nonneg_right above unit.le)

theorem fit_standsFor {n : Nat} {g : Int} {q : Rat} (h : StandsFor n g q) (s : Bool) :
    Related Alike Eq (fit s n g) (fitted s q) := by
  rw [fitted_pos s h.pos, h.rounded_eq s]
  exact fit_rounded s (lt_of_lt_of_le (by decide) h.large) g

theorem digits_of_large {n : Nat} (large : 10 ^ precision ≤ n) : precision < Rounding.digitCount n := by
  by_contra few
  have small := (Rounding.digitCount_le (n := n) (by decide : 0 < precision)).1 (by omega)
  omega

/-- Two terms brought to one exponent, the second perhaps as a unit too small to show. -/
inductive Terms (a b : Nat) (g : Int) (x y : Rat) : Prop
  | whole (first : (a : Rat) * 10 ^ g = x) (second : (b : Rat) * 10 ^ g = y)
  | cut (first : (a : Rat) * 10 ^ g = x) (unit : b = 1) (ten : 10 ∣ a)
      (large : 10 ^ (precision + 1) ≤ a) (some : 0 < y) (small : y < 10 ^ g)

namespace Terms

variable {a b : Nat} {g : Int} {x y : Rat}

theorem sum (h : Terms a b g x y) (s : Bool) :
    Related Alike Eq (fit s (a + b) g) (fitted s (x + y)) := by
  cases h with
  | whole first second =>
    have total : x + y = ((a + b : Nat) : Rat) * 10 ^ g := by
      rw [← first, ← second]
      push_cast
      ring
    rw [total]
    exact fit_fitted s (a + b) g
  | cut first unit ten large some small =>
    subst unit
    refine fit_standsFor (standsFor_between (j := a) ?_ ?_ (.inr rfl) (by omega) (digits_of_large ?_)) s
    · linarith
    · push_cast
      linarith
    · exact le_trans (Nat.pow_le_pow_right (by norm_num) (by omega)) (large.trans (Nat.le_succ a))

theorem difference (h : Terms a b g x y) (s : Bool) (less : b < a) :
    y < x ∧ Related Alike Eq (fit s (a - b) g) (fitted s (x - y)) := by
  have unit := scale_pos g
  cases h with
  | whole first second =>
    refine ⟨?_, ?_⟩
    · rw [← first, ← second]
      exact mul_lt_mul_of_pos_right (Nat.cast_lt.2 less) unit
    have total : x - y = ((a - b : Nat) : Rat) * 10 ^ g := by
      rw [← first, ← second]
      push_cast [less.le]
      ring
    rw [total]
    exact fit_fitted s (a - b) g
  | cut first unit ten large some small =>
    subst unit
    have next : ((a - 1 + 1 : Nat) : Rat) = a := by
      congr 1
      omega
    have low : (((a - 1 : Nat) : Rat)) * 10 ^ g = x - 10 ^ g := by
      push_cast [less.le]
      linarith
    have size : (10 : Rat) ^ g ≤ x := by
      rw [← first]
      exact le_mul_of_one_le_left unit.le (by exact_mod_cast less.le)
    refine ⟨lt_of_lt_of_le small size, ?_⟩
    refine fit_standsFor (standsFor_between (j := a - 1) ?_ ?_ (.inl rfl) (by omega) (digits_of_large ?_)) s
    · linarith
    · rw [next]
      linarith
    · have power : 10 ^ (precision + 1) = 10 ^ precision * 10 := Nat.pow_succ _ _
      have positive : 0 < 10 ^ precision := by decide
      omega

theorem order (h : Terms a b g x y) : (a = b → x = y) ∧ (a < b → Terms b a g y x) := by
  cases h with
  | whole first second =>
    exact ⟨fun same => by rw [← first, ← second, same], fun _ => .whole second first⟩
  | cut first unit ten large some small =>
    have positive : 1 < 10 ^ (precision + 1) := by decide
    exact ⟨fun same => by omega, fun less => by omega⟩

end Terms

theorem digits_scaled {n : Nat} (positive : 0 < n) (f : Int) {g : Int}
    (under : (Rounding.digitCount n : Int) + f - 1 < g) : (n : Rat) * 10 ^ f < 10 ^ g := by
  have size := scaled_pos positive f
  have log := log_scaled positive f
  have power := (Int.lt_zpow_iff_log_lt (b := 10) (x := g) (by norm_num) size).2 (by omega)
  exact_mod_cast power

theorem meet_terms {m n : Nat} {e f : Int} (first : 0 < m) (second : 0 < n) (order : f ≤ e) :
    Terms (align.meet m e n f).1 (align.meet m e n f).2.1 (align.meet m e n f).2.2 (m * 10 ^ e)
      (n * 10 ^ f) := by
  unfold align.meet
  dsimp only
  set g := e + min (-1) ((Rounding.digitCount m : Int) - precision - 2) with g_eq
  have below : g < e := by omega
  split
  next under =>
    have kept := Rounding.pow_le_of_digitCount first
    refine .cut (StandsFor.units m g below.le) rfl ?_ ?_ (scaled_pos second f) (digits_scaled second f under)
    · have step : (e - g).toNat = (e - g).toNat - 1 + 1 := by omega
      change 10 ∣ m * 10 ^ (e - g).toNat
      rw [step, Nat.pow_succ]
      exact ⟨m * 10 ^ ((e - g).toNat - 1), by ring⟩
    · have digits := Rounding.digitCount_pos m
      calc 10 ^ (precision + 1) ≤ 10 ^ (Rounding.digitCount m - 1 + (e - g).toNat) :=
            Nat.pow_le_pow_right (by norm_num) (by omega)
        _ = 10 ^ (Rounding.digitCount m - 1) * 10 ^ (e - g).toNat := Nat.pow_add _ _ _
        _ ≤ m * 10 ^ (e - g).toNat := Nat.mul_le_mul_right _ kept
  next => exact .whole (StandsFor.units m f order) rfl

theorem align_terms {m n : Nat} (e f : Int) (first : 0 < m) (second : 0 < n) :
    let t := align m e n f
    Terms t.1 t.2.1 t.2.2 (m * 10 ^ e) (n * 10 ^ f) ∨ Terms t.2.1 t.1 t.2.2 (n * 10 ^ f) (m * 10 ^ e) := by
  unfold align
  split
  next less => exact .inr (meet_terms second first less.le)
  next more => exact .inl (meet_terms first second (by omega))

theorem terms_sum {a b : Nat} {g : Int} {x y : Rat} (h : Terms a b g x y ∨ Terms b a g y x) (s : Bool) :
    Related Alike Eq (fit s (a + b) g) (fitted s (x + y)) := by
  rcases h with h | h
  · exact h.sum s
  · rw [Nat.add_comm, add_comm x]
    exact h.sum s

theorem terms_order {a b : Nat} {g : Int} {x y : Rat} (h : Terms a b g x y ∨ Terms b a g y x) :
    (a = b → x = y) ∧ (b < a → Terms a b g x y) ∧ (a < b → Terms b a g y x) := by
  rcases h with h | h
  · exact ⟨h.order.1, fun _ => h, h.order.2⟩
  · exact ⟨fun same => (h.order.1 same.symm).symm, h.order.2, fun _ => h⟩

-- The sum of `x` and `y`, both not negative, under their signs. Opposites come to a positive zero.
def summed (s : Bool) (x : Rat) (t : Bool) (y : Rat) : Except Signal Decimal :=
  if s = t then fitted s (x + y)
  else if x = y then fitted false 0
  else if y < x then fitted s (x - y)
  else fitted t (y - x)

theorem summed_zero_left (s t : Bool) {y : Rat} (positive : 0 < y) : summed s 0 t y = fitted t y := by
  unfold summed
  by_cases same : s = t
  · simp [same]
  · simp [same, positive.ne, positive.not_gt]

theorem summed_zero_right (s t : Bool) {x : Rat} (positive : 0 < x) : summed s x t 0 = fitted s x := by
  unfold summed
  by_cases same : s = t
  · simp [same]
  · simp [same, positive, positive.ne']

theorem add_rounds (s t : Bool) (m n : Nat) (e f : Int) :
    Related Alike Eq (add (.finite s m e) (.finite t n f)) (summed s (m * 10 ^ e) t (n * 10 ^ f)) := by
  simp only [add, notANumber?, Bool.and_eq_true, decide_eq_true_eq]
  rcases Nat.eq_zero_or_pos m with rfl | left
  · rcases Nat.eq_zero_or_pos n with rfl | right
    · simp only [and_self, if_true, Nat.cast_zero, zero_mul]
      have sign : summed s 0 t 0 = fitted (s && t) 0 := by cases s <;> cases t <;> simp [summed]
      rw [sign]
      exact fit_zero _ _
    · simp only [right.ne', and_false, if_false, if_true, Nat.cast_zero, zero_mul]
      have value := StandsFor.units n (max (min e f) (f - precision - 1)) (k := f) (by omega)
      rw [summed_zero_left s t (scaled_pos right f), ← value]
      exact fit_fitted _ _ _
  · rcases Nat.eq_zero_or_pos n with rfl | right
    · simp only [left.ne', false_and, if_false, if_true, Nat.cast_zero, zero_mul]
      have value := StandsFor.units m (max (min e f) (e - precision - 1)) (k := e) (by omega)
      rw [summed_zero_right s t (scaled_pos left e), ← value]
      exact fit_fitted _ _ _
    · simp only [left.ne', right.ne', false_and, if_false]
      have terms := align_terms e f left right
      dsimp only at terms
      obtain ⟨equal, more, less⟩ := terms_order terms
      unfold summed
      split
      next same => exact terms_sum terms s
      next apart =>
        rcases lt_trichotomy (align m e n f).1 (align m e n f).2.1 with under | same | above
        · obtain ⟨size, result⟩ := (less under).difference t under
          rw [if_neg under.ne, if_neg under.not_gt, if_neg size.ne, if_neg size.not_gt]
          exact result
        · rw [if_pos same, if_pos (equal same)]
          exact fit_zero _ _
        · obtain ⟨size, result⟩ := (more above).difference s above
          rw [if_neg above.ne', if_pos above, if_neg size.ne', if_pos size]
          exact result

theorem mul_rounds (s t : Bool) (m n : Nat) (e f : Int) :
    Related Alike Eq (mul (.finite s m e) (.finite t n f))
      (fitted (s != t) (m * 10 ^ e * (n * 10 ^ f))) := by
  have value : (m : Rat) * 10 ^ e * (n * 10 ^ f) = (m * n : Nat) * 10 ^ (e + f) := by
    rw [zpow_add₀ (by norm_num)]
    push_cast
    ring
  rw [value]
  exact fit_fitted _ _ _

def unsigned (s : Bool) (q : Rat) : Bool := if q = 0 then false else s

theorem neg_rounds (s : Bool) (c : Nat) (e : Int) :
    Related Alike Eq (neg (.finite s c e)) (fitted (unsigned (!s) (c * 10 ^ e)) (c * 10 ^ e)) := by
  simp only [unsigned, scaled_eq_zero]
  exact fit_fitted _ _ _

theorem pos_rounds (s : Bool) (c : Nat) (e : Int) :
    Related Alike Eq (pos (.finite s c e)) (fitted (unsigned s (c * 10 ^ e)) (c * 10 ^ e)) := by
  simp only [unsigned, scaled_eq_zero]
  exact fit_fitted _ _ _

theorem stripZeros_value (fuel n : Nat) (e : Int) :
    ((Rounding.stripZeros fuel n e).1 : Rat) * 10 ^ (Rounding.stripZeros fuel n e).2 = n * 10 ^ e := by
  induction fuel generalizing n e with
  | zero => rfl
  | succ fuel ih =>
    rw [Rounding.stripZeros]
    split
    next zero =>
      have ten : n = n / 10 * 10 := by omega
      rw [ih, zpow_add_one₀ (by norm_num)]
      conv_rhs => rw [ten]
      push_cast
      ring
    next => rfl

theorem shifts (k : Int) : (10 : Rat) ^ k.toNat = 10 ^ k * 10 ^ (-k).toNat := by
  rw [← zpow_natCast, ← zpow_natCast, ← zpow_add₀ (by norm_num)]
  congr 1
  omega

theorem quotient_between {a b : Nat} (g : Int) (positive : 0 < b) (large : 10 ^ precision * b ≤ a)
    (inexact : a % b ≠ 0) :
    StandsFor (if a / b % 5 = 0 then a / b + 1 else a / b) g ((a : Rat) / b * 10 ^ g) := by
  have size : (0 : Rat) < b := Nat.cast_pos.2 positive
  have parts := Nat.div_add_mod' a b
  have rest := Nat.mod_lt a positive
  have low : ((a / b : Nat) : Rat) < a / b := by
    rw [lt_div_iff₀ size]
    exact_mod_cast (by omega : a / b * b < a)
  have high : (a : Rat) / b < ((a / b + 1 : Nat) : Rat) := by
    rw [div_lt_iff₀ size]
    have grown : (a / b + 1) * b = a / b * b + b := Nat.succ_mul _ _
    exact_mod_cast (by omega : a < (a / b + 1) * b)
  have many : 10 ^ precision ≤ a / b := (Nat.le_div_iff_mul_le positive).2 large
  refine standsFor_between (j := a / b) (mul_lt_mul_of_pos_right low (scale_pos g))
    (mul_lt_mul_of_pos_right high (scale_pos g)) ?_ ?_ (digits_of_large ?_) <;> split <;> omega

theorem div_rounds (s t : Bool) (m : Nat) {n : Nat} (e f : Int) (divisor : n ≠ 0) :
    Related Alike Eq (div (.finite s m e) (.finite t n f))
      (fitted (s != t) (m * 10 ^ e / (n * 10 ^ f))) := by
  simp only [div, notANumber?, divisor, if_false]
  by_cases none : m = 0
  · subst none
    rw [if_pos rfl, Nat.cast_zero, zero_mul, zero_div]
    exact fit_zero _ _
  · rw [if_neg none]
    set shift : Int := (Rounding.digitCount n : Int) - Rounding.digitCount m + precision + 1 with shift_eq
    have bottom : 0 < n * Nat.pow 10 (-shift).toNat :=
      Nat.mul_pos (Nat.pos_of_ne_zero divisor) (Nat.pow_pos (by norm_num))
    have large : 10 ^ precision * (n * Nat.pow 10 (-shift).toNat) ≤ m * Nat.pow 10 shift.toNat := by
      have above := Rounding.pow_le_of_digitCount (Nat.pos_of_ne_zero none)
      have under := (Rounding.lt_pow_digitCount n).le
      have digits := Rounding.digitCount_pos m
      calc 10 ^ precision * (n * 10 ^ (-shift).toNat)
          ≤ 10 ^ precision * (10 ^ Rounding.digitCount n * 10 ^ (-shift).toNat) :=
            Nat.mul_le_mul_left _ (Nat.mul_le_mul_right _ under)
        _ = 10 ^ (precision + (Rounding.digitCount n + (-shift).toNat)) := by
            rw [Nat.pow_add, Nat.pow_add]
        _ = 10 ^ (Rounding.digitCount m - 1 + shift.toNat) := by
            congr 1
            omega
        _ = 10 ^ (Rounding.digitCount m - 1) * 10 ^ shift.toNat := Nat.pow_add _ _ _
        _ ≤ m * 10 ^ shift.toNat := Nat.mul_le_mul_right _ above
    have value : (m : Rat) * 10 ^ e / (n * 10 ^ f) =
        ((m * Nat.pow 10 shift.toNat : Nat) : Rat) / ((n * Nat.pow 10 (-shift).toNat : Nat) : Rat) *
          10 ^ (e - f - shift) := by
      have split := shifts shift
      have cast (k : Nat) : ((Nat.pow 10 k : Nat) : Rat) = 10 ^ k := Nat.cast_pow 10 k
      rw [zpow_sub₀ (by norm_num), zpow_sub₀ (by norm_num), Nat.cast_mul, Nat.cast_mul, cast, cast, split]
      field_simp
    rw [value]
    split
    next inexact => exact fit_standsFor (quotient_between _ bottom large inexact) _
    next exactly =>
      have whole : ((m * Nat.pow 10 shift.toNat / (n * Nat.pow 10 (-shift).toNat) : Nat) : Rat) =
          ((m * Nat.pow 10 shift.toNat : Nat) : Rat) / ((n * Nat.pow 10 (-shift).toNat : Nat) : Rat) :=
        Nat.cast_div (Nat.dvd_of_mod_eq_zero (by simpa using exactly)) (Nat.cast_ne_zero.2 bottom.ne')
      rw [← whole]
      have stripped := fit_fitted (s != t)
        (Rounding.stripZeros (e - f - (e - f - shift)).toNat
          (m * Nat.pow 10 shift.toNat / (n * Nat.pow 10 (-shift).toNat)) (e - f - shift)).1
        (Rounding.stripZeros (e - f - (e - f - shift)).toNat
          (m * Nat.pow 10 shift.toNat / (n * Nat.pow 10 (-shift).toNat)) (e - f - shift)).2
      rw [stripZeros_value] at stripped
      exact stripped

-- What truncated division of `x` by `y` leaves, as long as the quotient is not too long; `s` is the sign of
-- the dividend.
def remainder (s : Bool) (x y : Rat) : Except Signal Decimal :=
  let gap := Int.log 10 x - Int.log 10 y
  if x = 0 then fitted s 0
  else if gap ≤ -2 then fitted s x
  else if precision < gap then .error .divisionImpossible
  else if Nat.pow 10 precision ≤ ⌊x / y⌋₊ then .error .divisionImpossible
  else fitted s (x - y * ⌊x / y⌋₊)

theorem rem_rounds (s t : Bool) (m : Nat) {n : Nat} (e f : Int) (divisor : n ≠ 0) :
    Related Alike Eq (rem (.finite s m e) (.finite t n f)) (remainder s (m * 10 ^ e) (n * 10 ^ f)) := by
  simp only [rem, notANumber?, divisor, if_false]
  unfold remainder
  dsimp only
  by_cases none : m = 0
  · subst none
    rw [if_pos rfl, if_pos (by simp)]
    exact fit_zero _ _
  · have positive := Nat.pos_of_ne_zero none
    have some := Nat.pos_of_ne_zero divisor
    have gap : adjusted m e - adjusted n f =
        Int.log 10 ((m : Rat) * 10 ^ e) - Int.log 10 ((n : Rat) * 10 ^ f) := by
      have left := log_scaled positive e
      have right := log_scaled some f
      unfold adjusted
      omega
    rw [if_neg none, if_neg (scaled_pos positive e).ne', gap]
    split
    next =>
      have value := StandsFor.units m (min e f) (k := e) (by omega)
      rw [← value]
      exact fit_fitted _ _ _
    next =>
      split
      next => rfl
      next =>
        have first := StandsFor.units m (min e f) (k := e) (by omega)
        have second := StandsFor.units n (min e f) (k := f) (by omega)
        have power (k : Nat) : Nat.pow 10 k = 10 ^ k := rfl
        simp only [power]
        set a := m * 10 ^ (e - min e f).toNat
        set b := n * 10 ^ (f - min e f).toNat
        have unit := scale_pos (min e f)
        have quotient : ⌊(m : Rat) * 10 ^ e / (n * 10 ^ f)⌋₊ = a / b := by
          rw [← first, ← second, mul_div_mul_right _ _ unit.ne']
          exact Nat.floor_div_eq_div a b
        have rest : (m : Rat) * 10 ^ e - n * 10 ^ f * (a / b : Nat) = ((a % b : Nat) : Rat) * 10 ^ min e f := by
          have parts : ((a / b : Nat) : Rat) * b + (a % b : Nat) = a := by
            exact_mod_cast Nat.div_add_mod' a b
          rw [← first, ← second, ← parts]
          ring
        rw [quotient]
        split
        next => rfl
        next =>
          rw [rest]
          exact fit_fitted _ _ _

namespace Alike

variable {x y u v : Decimal}

theorem symm (h : x.Alike u) : u.Alike x := by
  cases h with
  | finite value => exact .finite value.symm
  | infinite s => exact .infinite s
  | nan s q p k => exact .nan s q p k

theorem trans (h : x.Alike y) (g : y.Alike u) : x.Alike u := by
  cases h with
  | finite value =>
    cases g with
    | finite other => exact .finite (value.trans other)
  | infinite s => exact g
  | nan s q p k => exact g

theorem common {r₁ r₂ r : Except Signal Decimal} (h : Related Alike Eq r₁ r) (g : Related Alike Eq r₂ r) :
    Related Alike Eq r₁ r₂ :=
  Related.common h g fun _ _ _ left right => left.trans right.symm

theorem related (r : Except Signal Decimal) : Related Alike Eq r r := Related.of_eq rfl refl fun _ => rfl

theorem zero {c d : Nat} {e f : Int} (value : (c : Rat) * 10 ^ e = d * 10 ^ f) : c = 0 ↔ d = 0 := by
  rw [← scaled_eq_zero (e := e), value, scaled_eq_zero]

theorem neg (h : x.Alike u) : Related Alike Eq x.neg u.neg := by
  cases h with
  | @finite s c d e f value =>
    have left := neg_rounds s c e
    rw [value] at left
    exact common left (neg_rounds s d f)
  | infinite | nan => exact related _

theorem pos (h : x.Alike u) : Related Alike Eq x.pos u.pos := by
  cases h with
  | @finite s c d e f value =>
    have left := pos_rounds s c e
    rw [value] at left
    exact common left (pos_rounds s d f)
  | infinite | nan => exact related _

theorem flip (h : x.Alike u) : x.flip.Alike u.flip := by
  cases h with
  | finite value => exact .finite value
  | infinite s => exact .infinite _
  | nan s q p k => exact .nan s q p k

theorem add (h : x.Alike u) (g : y.Alike v) : Related Alike Eq (x.add y) (u.add v) := by
  cases h with
  | @finite s m m' e e' value =>
    cases g with
    | @finite t n n' f f' other =>
      have left := add_rounds s t m n e f
      rw [value, other] at left
      exact common left (add_rounds s t m' n' e' f')
    | infinite t => exact .infinite t
    | nan t q p k => cases q <;> exact related _
  | infinite s =>
    cases g with
    | finite other => exact .infinite s
    | infinite | nan => exact related _
  | nan s q p k =>
    cases g with
    | finite other => cases q <;> exact related _
    | infinite | nan => exact related _

theorem sub (h : x.Alike u) (g : y.Alike v) : Related Alike Eq (x.sub y) (u.sub v) := by
  have sum := h.add g.flip
  cases h with
  | finite value =>
    cases g with
    | finite | infinite => exact sum
    | nan t q p k => cases q <;> exact related _
  | infinite s =>
    cases g with
    | finite | infinite => exact sum
    | nan => exact related _
  | nan s q p k =>
    cases g with
    | finite other => cases q <;> exact related _
    | infinite | nan => exact related _

theorem mul (h : x.Alike u) (g : y.Alike v) : Related Alike Eq (x.mul y) (u.mul v) := by
  cases h with
  | @finite s m m' e e' value =>
    cases g with
    | @finite t n n' f f' other =>
      have left := mul_rounds s t m n e f
      rw [value, other] at left
      exact common left (mul_rounds s t m' n' e' f')
    | infinite t =>
      simp only [Decimal.mul, notANumber?, zero value]
      exact related _
    | nan t q p k => cases q <;> exact related _
  | infinite s =>
    cases g with
    | finite other =>
      simp only [Decimal.mul, notANumber?, zero other]
      exact related _
    | infinite | nan => exact related _
  | nan s q p k =>
    cases g with
    | finite other => cases q <;> exact related _
    | infinite | nan => exact related _

theorem div (h : x.Alike u) (g : y.Alike v) : Related Alike Eq (x.div y) (u.div v) := by
  cases h with
  | @finite s m m' e e' value =>
    cases g with
    | @finite t n n' f f' other =>
      by_cases none : n = 0
      · have also := (zero other).1 none
        simp only [Decimal.div, notANumber?, none, also, if_true, zero value]
        exact related _
      · have left := div_rounds s t m e f none
        rw [value, other] at left
        exact common left (div_rounds s t m' e' f' fun zeroed => none ((zero other).2 zeroed))
    | infinite b => exact .finite rfl
    | nan b q p k => cases q <;> exact related _
  | infinite s =>
    cases g with
    | finite other => exact .infinite _
    | infinite | nan => exact related _
  | nan s q p k =>
    cases g with
    | finite other => cases q <;> exact related _
    | infinite | nan => exact related _

theorem rem (h : x.Alike u) (g : y.Alike v) : Related Alike Eq (x.rem y) (u.rem v) := by
  cases h with
  | @finite s m m' e e' value =>
    cases g with
    | @finite t n n' f f' other =>
      by_cases none : n = 0
      · have also := (zero other).1 none
        simp only [Decimal.rem, notANumber?, none, also, if_true, zero value]
        exact related _
      · have left := rem_rounds s t m e f none
        rw [value, other] at left
        exact common left (rem_rounds s t m' e' f' fun zeroed => none ((zero other).2 zeroed))
    | infinite b =>
      have left := fit_fitted s m e
      rw [value] at left
      exact common left (fit_fitted s m' e')
    | nan b q p k => cases q <;> exact related _
  | infinite s => cases g <;> exact related _
  | nan s q p k =>
    cases g with
    | finite other => cases q <;> exact related _
    | infinite | nan => exact related _

end Alike

end Decimal

end Deferred
