import Deferred.Build
import Deferred.Proofs.Integers
import Mathlib.Algebra.Order.Floor.Ring
import Mathlib.Algebra.Order.Ring.Rat
import Mathlib.Data.Rat.Floor
import Mathlib.Tactic.Linarith
import Mathlib.Tactic.FieldSimp

-- Division of integers. Quotient and remainder are those of C.

set_option autoImplicit false

namespace Deferred

open Outcome

structure Division (m n q r : Int) : Prop where
  whole : m = q * n + r
  small : |r| < |n|
  sign : r = 0 ∨ r.sign = m.sign

def towardZero (q : ℚ) : Int := if 0 ≤ q then ⌊q⌋ else ⌈q⌉

namespace Division

variable {m n q r : Int}

theorem nonneg (divided : Division m n q r) (h : 0 ≤ m) : 0 ≤ r := by
  rcases divided.sign with none | same
  · exact none.ge
  · rwa [← Int.sign_nonneg_iff, same, Int.sign_nonneg_iff]

theorem nonpos (divided : Division m n q r) (h : m ≤ 0) : r ≤ 0 := by
  rcases divided.sign with none | same
  · exact none.le
  · rwa [← Int.sign_nonpos_iff, same, Int.sign_nonpos_iff]

theorem of_tdiv (m : Int) {n : Int} (nonzero : n ≠ 0) : Division m n (m.tdiv n) (m.tmod n) where
  whole := (Int.tdiv_mul_add_tmod m n).symm
  small := by
    rw [Int.abs_eq_natAbs, Int.abs_eq_natAbs, Int.natAbs_tmod, Int.ofNat_lt]
    exact Nat.mod_lt _ (Int.natAbs_pos.2 nonzero)
  sign := by
    rw [Int.sign_tmod]
    split
    next divides => exact .inl (Int.tmod_eq_zero_of_dvd divides)
    next => exact .inr rfl

theorem unique (divided : Division m n q r) : q = m.tdiv n ∧ r = m.tmod n := by
  have nonzero : n ≠ 0 := by
    rintro rfl
    have small := divided.small
    rw [abs_zero] at small
    exact absurd small (abs_nonneg r).not_gt
  have sum : r + n * q = m := by rw [divided.whole, Int.mul_comm n, Int.add_comm]
  have small := abs_lt.1 (divided.small.trans_eq (Int.abs_eq_natAbs n))
  rcases le_total 0 m with positive | negative
  · obtain ⟨same, same'⟩ := (Int.tdiv_tmod_unique positive nonzero).2
      ⟨sum, divided.nonneg positive, small.2⟩
    exact ⟨same.symm, same'.symm⟩
  · obtain ⟨same, same'⟩ := (Int.tdiv_tmod_unique' negative nonzero).2
      ⟨sum, small.1, divided.nonpos negative⟩
    exact ⟨same.symm, same'.symm⟩

theorem towardZero_ratio (divided : Division m n q r) (nonzero : n ≠ 0) : q = towardZero (m / n) := by
  have divisor : (n : ℚ) ≠ 0 := by exact_mod_cast nonzero
  have parts : (m : ℚ) / n = q + r / n := by
    rw [divided.whole]
    push_cast
    field_simp
  have proper : |(r : ℚ) / n| < 1 := by
    rw [abs_div, div_lt_one (abs_pos.2 divisor)]
    exact_mod_cast divided.small
  obtain ⟨lower, upper⟩ := abs_lt.1 proper
  unfold towardZero
  split
  next positive =>
    have side : 0 ≤ (r : ℚ) / n := by
      rcases div_nonneg_iff.1 positive with ⟨above, below⟩ | ⟨above, below⟩
      · exact div_nonneg (by exact_mod_cast divided.nonneg (by exact_mod_cast above)) below
      · exact div_nonneg_of_nonpos (by exact_mod_cast divided.nonpos (by exact_mod_cast above)) below
    rw [parts, Int.floor_intCast_add, Int.floor_eq_zero_iff.2 ⟨side, upper⟩, Int.add_zero]
  next negative =>
    have side : (r : ℚ) / n ≤ 0 := by
      rcases div_nonpos_iff.1 (not_le.1 negative).le with ⟨above, below⟩ | ⟨above, below⟩
      · exact div_nonpos_of_nonneg_of_nonpos (by exact_mod_cast divided.nonneg (by exact_mod_cast above)) below
      · exact div_nonpos_of_nonpos_of_nonneg (by exact_mod_cast divided.nonpos (by exact_mod_cast above)) below
    rw [parts, Int.ceil_intCast_add, Int.ceil_eq_zero_iff.2 ⟨lower, side⟩, Int.add_zero]

end Division

section

variable [Host]

theorem accept_integral {e : Environment} {x : Item} (integral : x.Integral)
    (written : e.isStatic → x.isWritable) (bound : ∀ v ∈ x.declarations, ∃ n, e.BindsInteger v.1 n) :
    e.accept x = .ok () := by
  cases e with
  | dynamic d => exact rfl
  | static s =>
    refine StaticEnvironment.accept_ok.2 ⟨written rfl, fun v occurs => ?_,
      consistent_of_declared integral.declared⟩
    obtain ⟨n, binds⟩ := bound v occurs
    obtain ⟨k, kind, within⟩ := binds.typed s rfl
    refine ⟨some k, kind, .inr ⟨k, rfl, ?_⟩⟩
    rw [integral.declared v occurs]
    exact within

theorem evaluate_integral {e : Environment} {x : Item} (integral : x.Integral)
    (written : e.isStatic → x.isWritable) (bound : ∀ v ∈ x.declarations, ∃ n, e.BindsInteger v.1 n)
    (composite : x.isComposite) : evaluate x e = (x.integer e.integer).map .int := by
  rw [evaluate, accept_integral integral written bound]
  exact evaluateWith_node e integral composite

/-- Division and remainder of two integer variables, as the operators build them, in an environment of either
flavor. The two results are the only ones that meet the conditions, the quotient is the ratio cut off toward
zero, and together they give the dividend again. Division by zero is a fault of the operator asked for. -/
theorem division_of_integers {e : Environment} {x y : String} {m n : Int} (dividend : e.BindsInteger x m)
    (divisor : e.BindsInteger y n) (i j : Nat) :
    let a : Item := .placeholder i x .int
    let b : Item := .placeholder j y .int
    let quotient (s : Nat) : Item := .binary s .div a b .int
    let remainder (s : Nat) : Item := .binary s .mod a b .int
    let product (s t : Nat) : Item := .binary s .mul (quotient t) b .int
    let whole (s t u v : Nat) : Item := .binary s .add (product t u) (remainder v) .int
    Build.binary (.str "/") a b = .ok (quotient 0) ∧ Build.binary (.str "%") a b = .ok (remainder 0) ∧
      (∀ t u v, Build.binary (.str "*") (quotient t) b = .ok (product 0 t) ∧
        Build.binary (.str "+") (product t u) (remainder v) = .ok (whole 0 t u v)) ∧
      (n ≠ 0 → ∃ q r, (∀ s, evaluate (quotient s) e = .ok (.int q)) ∧
        (∀ s, evaluate (remainder s) e = .ok (.int r)) ∧ Division m n q r ∧
        (∀ q' r', Division m n q' r' → q' = q ∧ r' = r) ∧ q = towardZero (m / n) ∧
        ∀ s t u v, evaluate (whole s t u v) e = .ok (.int m)) ∧
      (n = 0 →
        (∀ s, evaluate (quotient s) e = .error (.arithmetic (.binary .div) .integerDivision)) ∧
        ∀ s, evaluate (remainder s) e = .error (.arithmetic (.binary .mod) .integerDivision)) := by
  intro a b quotient remainder product whole
  have integral (s : Nat) (op : BinaryOperator) : Item.Integral (.binary s op a b .int) :=
    .binary (.placeholder i x) (.placeholder j y)
  have bound : ∀ v ∈ [(x, Kind.int), (y, .int)], ∃ k, e.BindsInteger v.1 k := by
    simp only [List.forall_mem_cons]
    exact ⟨⟨m, dividend⟩, ⟨n, divisor⟩, nofun⟩
  have applied (s : Nat) (op : BinaryOperator) :
      evaluate (.binary s op a b .int) e = (op.onIntegers m n).map .int := by
    rw [evaluate_integral (integral s op) (fun _ => rfl) bound rfl]
    simp only [Item.integer, a, b, dividend.read, divisor.read]
    rfl
  refine ⟨rfl, rfl, fun t u v => ⟨rfl, rfl⟩, fun nonzero => ?_, fun zero => ?_⟩
  · have divided := Division.of_tdiv m nonzero
    have quotients : BinaryOperator.div.onIntegers m n = .ok (m.tdiv n) := if_neg nonzero
    have remainders : BinaryOperator.mod.onIntegers m n = .ok (m.tmod n) := if_neg nonzero
    refine ⟨m.tdiv n, m.tmod n, fun s => ?_, fun s => ?_, divided, fun q' r' => Division.unique,
      divided.towardZero_ratio nonzero, fun s t u v => ?_⟩
    · rw [applied, quotients]
      rfl
    · rw [applied, remainders]
      rfl
    · have tree : (whole s t u v).Integral :=
        .binary (.binary (integral u .div) (.placeholder j y)) (integral v .mod)
      have occurring : ∀ v ∈ [(x, Kind.int), (y, .int)] ++ [(y, .int)] ++ [(x, .int), (y, .int)],
          ∃ k, e.BindsInteger v.1 k := by
        refine List.forall_mem_append.2 ⟨List.forall_mem_append.2 ⟨bound, fun v last => ?_⟩, bound⟩
        exact bound v (List.mem_cons_of_mem _ last)
      have sum : (whole s t u v).integer e.integer = .ok m := by
        simp only [whole, product, quotient, remainder, Item.integer, a, b, dividend.read, divisor.read,
          Bind.bind, Except.bind, quotients, remainders]
        exact congrArg Except.ok divided.whole.symm
      rw [evaluate_integral tree (fun _ => rfl) occurring rfl, sum]
      rfl
  · exact ⟨fun s => by rw [applied, BinaryOperator.onIntegers, if_pos zero]; rfl,
      fun s => by rw [applied, BinaryOperator.onIntegers, if_pos zero]; rfl⟩

end

theorem division_of_integers_negative :
    let s : StaticEnvironment := ⟨[⟨"flag", .bool true, some .bool⟩, ⟨"a", .int (-7), some .int⟩,
      ⟨"b", .celsius 2, some .celsius⟩]⟩
    StaticEnvironment.ofBindings (s.bindings.map StaticEnvironment.raw) = .ok s ∧
      (Environment.static s).BindsInteger "a" (-7) ∧ (Environment.static s).BindsInteger "b" 2 ∧
      (Environment.static s).BindsInteger "flag" 1 ∧
      ∃ q r, evaluate (.binary 0 .div (.placeholder 1 "a" .int) (.placeholder 2 "b" .int) .int) (.static s) =
          .ok (.int q) ∧ Division (-7) 2 q r ∧ q = -3 ∧ r = -1 := by
  intro s
  have dividend : (Environment.static s).BindsInteger "a" (-7) :=
    ⟨⟨.int (-7), rfl, rfl⟩, by rintro _ ⟨⟩; exact ⟨.int, rfl, rfl⟩⟩
  have divisor : (Environment.static s).BindsInteger "b" 2 :=
    ⟨⟨.celsius 2, rfl, rfl⟩, by rintro _ ⟨⟩; exact ⟨.celsius, rfl, rfl⟩⟩
  have truth : (Environment.static s).BindsInteger "flag" 1 :=
    ⟨⟨.bool true, rfl, rfl⟩, by rintro _ ⟨⟩; exact ⟨.bool, rfl, rfl⟩⟩
  obtain ⟨-, -, -, results, -⟩ := division_of_integers dividend divisor 1 2
  obtain ⟨q, r, divides, -, divided, unique, -⟩ := results (by decide)
  obtain ⟨rfl, rfl⟩ := unique (-3) (-1) ⟨by decide, by decide, by decide⟩
  exact ⟨rfl, dividend, divisor, truth, -3, -1, divides 0, divided, rfl, rfl⟩

/-- An integer that is bound as any value at all is none where it is wanted as one. -/
theorem division_refused :
    let s : StaticEnvironment := ⟨[⟨"a", .int 7, some .any⟩, ⟨"b", .int 2, some .int⟩]⟩
    let quotient : Item := .binary 3 .div (.placeholder 1 "a" .int) (.placeholder 2 "b" .int) .int
    StaticEnvironment.ofBindings (s.bindings.map StaticEnvironment.raw) = .ok s ∧
      (Environment.static s).get "a" = .ok (.int 7) ∧ (Environment.static s).get "b" = .ok (.int 2) ∧
      ∃ why, evaluate quotient (.static s) = .error (.rejected why) :=
  ⟨rfl, rfl, rfl, _, rfl⟩

end Deferred
