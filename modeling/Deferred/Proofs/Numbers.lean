import Deferred.Algebra
import Deferred.Arithmetic.Numeric
import Deferred.Proofs.Outcome

-- Operators between numbers give a result of just the kind that the kinds of the operands say, or a fault.

set_option autoImplicit false

namespace Deferred

open Outcome Deferred.Algebra

def Kind.base : Kind → Kind
  | .bool => .int
  | k => k

theorem Kind.within_known {k l : Kind} (known : l.isWellKnown) (h : k.within l) :
    k = l ∨ l = .int ∧ (k = .bool ∨ k = .celsius) := by
  rcases Kind.within_iff.1 h with rfl | rfl | h
  · cases known
  · exact .inl rfl
  · cases k <;> cases h <;> simp_all [Kind.isWellKnown]

theorem Kind.known_of_within {k l : Kind} (known : l.isWellKnown) (h : k.within l) :
    k.isWellKnown ∨ k = .celsius := by
  rcases Kind.within_known known h with rfl | ⟨-, rfl | rfl⟩
  · exact .inl known
  · exact .inl rfl
  · exact .inr rfl

def Trouble.IsFault (t : Trouble) : Prop := ∃ f, t = .fault f

def Numeric.kind : Numeric → Kind
  | int _ => .int
  | float _ => .float
  | complex _ => .complex
  | fraction _ => .fraction
  | decimal _ => .decimal

def Matched.kind : Matched → Kind
  | ints .. => .int
  | floats .. => .float
  | complexes .. => .complex
  | fractions .. => .fraction
  | decimals .. => .decimal

def Kind.number? : Kind → Option Kind
  | .bool | .int | .celsius => some .int
  | .float => some .float
  | .complex => some .complex
  | .fraction => some .fraction
  | .decimal => some .decimal
  | _ => Option.none

theorem Kind.number_of_within {k l : Kind} (known : l.isWellKnown) (number : l ≠ .str)
    (h : k.within l) : k.number? = some l.base := by
  rcases Kind.within_known known h with rfl | ⟨rfl, rfl | rfl⟩
  · cases k <;> first
      | rfl
      | exact absurd rfl number
      | cases known
  · rfl
  · rfl

theorem Item.kind_numeric (a : Item) : a.numeric?.map Numeric.kind = a.kind.number? := by
  cases a with
  | tuple f xs => cases f <;> rfl
  | meters s kilo n => cases kilo <;> rfl
  | _ => rfl

theorem Item.numeric_of_conforms [Host] {a : Item} {k : Kind} (known : k.isWellKnown) (number : k ≠ .str)
    (h : a.conforms k) : ∃ x, a.numeric? = some x ∧ x.kind = k.base := by
  rw [a.conforms_native (Kind.native_of_known known)] at h
  rw [← Option.map_eq_some_iff, a.kind_numeric]
  exact Kind.number_of_within known number h

theorem Item.str_of_conforms [Host] {a : Item} (h : a.conforms .str) : ∃ s, a = .str s := by
  rw [a.conforms_native rfl] at h
  have same : a.kind = .str := by simpa using Kind.within_known rfl h
  cases a with
  | str s => exact ⟨s, rfl⟩
  | tuple f xs => cases f <;> cases same
  | meters s kilo n => cases kilo <;> cases same
  | _ => cases same

theorem knownUnary?_base (op : UnaryOperator) (k : Kind) : knownUnary? op k.base = knownUnary? op k := by
  cases op <;> cases k <;> rfl

theorem Kind.base_number {k : Kind} (h : k ≠ .str) : k.base ≠ .str := by
  cases k <;> first
    | exact h
    | simp [base]

theorem meeting?_base {k l : Kind} (left : k.isWellKnown) (right : l.isWellKnown) :
    meeting? k.base l.base = meeting? k l := by
  cases k <;> cases left <;> cases l <;> cases right <;> rfl

theorem knownBinary?_numbers {op : BinaryOperator} {k l : Kind} (left : k ≠ .str) (right : l ≠ .str) :
    knownBinary? op k l =
      if op = .mod then (meeting? k l).filter (· != .complex) else meeting? k l := by
  unfold knownBinary?
  split <;> simp_all

theorem knownBinary?_base (op : BinaryOperator) {k l : Kind} (left : k.isWellKnown)
    (right : l.isWellKnown) (number : k ≠ .str) (number' : l ≠ .str) :
    knownBinary? op k.base l.base = knownBinary? op k l := by
  rw [knownBinary?_numbers (Kind.base_number number) (Kind.base_number number'),
    knownBinary?_numbers number number', meeting?_base left right]

namespace Numeric

theorem toFloat_ensures {x : Numeric} (complex : x.kind ≠ .complex) (decimal : x.kind ≠ .decimal) :
    Ensures (fun _ => True) Trouble.IsFault x.toFloat := by
  cases x with
  | int n =>
    unfold toFloat integerToFloat
    dsimp only
    split
    · trivial
    · exact ⟨_, rfl⟩
  | float x => trivial
  | fraction q =>
    unfold toFloat fractionToFloat
    dsimp only
    split
    · trivial
    · exact ⟨_, rfl⟩
  | complex z => exact absurd rfl complex
  | decimal d => exact absurd rfl decimal

theorem meet_ensures {x y : Numeric} {k : Kind} (h : meeting? x.kind y.kind = some k) :
    Ensures (fun m => m.kind = k) Trouble.IsFault (x.meet y) := by
  have floats (z : Numeric) (complex : z.kind ≠ .complex) (decimal : z.kind ≠ .decimal)
      {f : Binary64 → Matched} (kind : ∀ w, (f w).kind = k) :
      Ensures (fun m => m.kind = k) Trouble.IsFault (z.toFloat.map f) :=
    (toFloat_ensures complex decimal).map fun w _ => kind w
  cases x <;> cases y <;> cases h
  all_goals first
    | exact rfl
    | exact floats _ (by simp [kind]) (by simp [kind]) fun _ => rfl

end Numeric

theorem signalling_ensures (r : Except Decimal.Signal Decimal) :
    Ensures (fun v => v.kind = .decimal) Trouble.IsFault (signalling r) := by
  cases r with
  | ok d => rfl
  | error s => exact ⟨_, rfl⟩

namespace Matched

theorem add_ensures (m : Matched) : Ensures (fun v => v.kind = m.kind) Trouble.IsFault m.add := by
  cases m with
  | decimals d e => exact signalling_ensures _
  | _ => rfl

theorem sub_ensures (m : Matched) : Ensures (fun v => v.kind = m.kind) Trouble.IsFault m.sub := by
  cases m with
  | decimals d e => exact signalling_ensures _
  | _ => rfl

theorem mul_ensures (m : Matched) : Ensures (fun v => v.kind = m.kind) Trouble.IsFault m.mul := by
  cases m with
  | decimals d e => exact signalling_ensures _
  | _ => rfl

theorem div_ensures (m : Matched) : Ensures (fun v => v.kind = m.kind) Trouble.IsFault m.div := by
  cases m with
  | decimals d e => exact signalling_ensures _
  | _ =>
    unfold div
    dsimp only
    split
    all_goals first
      | exact rfl
      | exact ⟨_, rfl⟩

theorem mod_ensures {m : Matched} (real : m.kind ≠ .complex) :
    Ensures (fun v => v.kind = m.kind) Trouble.IsFault m.mod := by
  cases m with
  | decimals d e => exact signalling_ensures _
  | complexes z w => exact absurd rfl real
  | _ =>
    unfold mod
    dsimp only
    split
    all_goals first
      | exact rfl
      | exact ⟨_, rfl⟩

end Matched

namespace Numeric

theorem floatRem_ensures {x y : Numeric} (left : x.kind = .int ∨ x.kind = .float)
    (right : y.kind = .int ∨ y.kind = .float) :
    Ensures (fun v => v.kind = .float) Trouble.IsFault (floatRem x y) := by
  have real {z : Numeric} (h : z.kind = .int ∨ z.kind = .float) :
      Ensures (fun _ => True) Trouble.IsFault z.toFloat :=
    toFloat_ensures (by rcases h with h | h <;> simp [h]) (by rcases h with h | h <;> simp [h])
  have guarded (zero infinite : Bool) : Ensures (fun v : Item => v.kind = .float) Trouble.IsFault
      (if zero then .error (.fault .floatRemainder)
      else if infinite then .ok (.float (.nan 0))
      else x.toFloat >>= fun a => y.toFloat >>= fun b => .ok (.float (a.rem b))) := by
    split
    · exact ⟨_, rfl⟩
    · split
      · exact rfl
      · exact (real left).bind fun a _ => (real right).bind fun b _ => rfl
  exact guarded _ _

theorem rem_ensures {x y : Numeric} {k : Kind} (h : meeting? x.kind y.kind = some k)
    (real : k ≠ .complex) : Ensures (fun v => v.kind = k) Trouble.IsFault (rem x y) := by
  have general : Ensures (fun v => v.kind = k) Trouble.IsFault (x.meet y >>= Matched.mod) :=
    (meet_ensures h).bind fun m same => same ▸ Matched.mod_ensures (same ▸ real)
  have floating : (x.kind = .int ∨ x.kind = .float) → (y.kind = .int ∨ y.kind = .float) →
      Ensures (fun v => v.kind = .float) Trouble.IsFault (floatRem x y) := floatRem_ensures
  cases x <;> cases y <;> cases h
  all_goals first
    | exact general
    | exact floating (.inr rfl) (.inr rfl)
    | exact floating (.inr rfl) (.inl rfl)
    | exact floating (.inl rfl) (.inr rfl)
    | exact absurd rfl real

theorem apply_ensures {op : BinaryOperator} {x y : Numeric} {k : Kind}
    (h : knownBinary? op x.kind y.kind = some k) :
    Ensures (fun v => v.kind = k) Trouble.IsFault (x.apply op y) := by
  have text (z : Numeric) : z.kind ≠ .str := by cases z <;> simp [kind]
  rw [knownBinary?_numbers (text x) (text y)] at h
  have through {f : Matched → Except Trouble Item} (met : meeting? x.kind y.kind = some k)
      (each : ∀ m : Matched, Ensures (fun v => v.kind = m.kind) Trouble.IsFault (f m)) :
      Ensures (fun v => v.kind = k) Trouble.IsFault (x.meet y >>= f) :=
    (meet_ensures met).bind fun m same => same ▸ each m
  cases op with
  | add => exact through h Matched.add_ensures
  | sub => exact through h Matched.sub_ensures
  | mul => exact through h Matched.mul_ensures
  | div => exact through h Matched.div_ensures
  | mod =>
    obtain ⟨met, real⟩ := Option.filter_eq_some_iff.1 h
    exact rem_ensures met (by simpa using real)

theorem applyUnary_ensures {op : UnaryOperator} {x : Numeric} {k : Kind}
    (h : knownUnary? op x.kind = some k) :
    Ensures (fun v => v.kind = k) Trouble.IsFault (applyUnary op x) := by
  cases op <;> cases x <;> cases h
  all_goals first
    | exact rfl
    | exact signalling_ensures _

end Numeric

end Deferred
