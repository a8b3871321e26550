import Deferred.Arithmetic.Apply
import Deferred.Proofs.Numbers
import Deferred.Proofs.Template

-- Operators between values of well-known kinds. The kinds of the operands say what kind the result has.

set_option autoImplicit false

namespace Deferred

open Outcome Deferred.Algebra

def Trouble.Expected (op : BinaryOperator) (k l : Kind) : Trouble → Prop
  | .fault _ => True
  | .exhausted => k = .str ∨ l = .str
  | .unsupported | .invalid => op = .mod ∧ k = .str
  | .rejected _ | .missingKey => False

theorem Trouble.IsFault.expected {op : BinaryOperator} {k l : Kind} {t : Trouble} (h : t.IsFault) :
    t.Expected op k l := by
  obtain ⟨f, rfl⟩ := h
  trivial

theorem Trouble.Unfilled.expected {l : Kind} {t : Trouble} (h : t.Unfilled) :
    t.Expected .mod .str l := by
  cases t with
  | fault f => trivial
  | rejected r => exact h
  | unsupported => exact ⟨rfl, rfl⟩
  | invalid => exact ⟨rfl, rfl⟩
  | missingKey => exact h
  | exhausted => exact .inl rfl

theorem knownBinary?_text {op : BinaryOperator} {l m : Kind} (h : knownBinary? op .str l = some m) :
    m = .str ∧ (op = .add ∧ l = .str ∨ op = .mul ∧ (l = .bool ∨ l = .int) ∨ op = .mod) := by
  cases op <;> cases l <;> cases h <;> simp

theorem knownBinary?_before_text {op : BinaryOperator} {k m : Kind} (other : k ≠ .str)
    (h : knownBinary? op k .str = some m) : m = .str ∧ op = .mul ∧ (k = .bool ∨ k = .int) := by
  cases op <;> cases k <;> cases h <;> simp_all

namespace Item

theorem not_expression_of_numeric {a : Item} {x : Numeric} (h : a.numeric? = some x) :
    a.isExpression = false := by
  cases a <;> first
    | rfl
    | cases h

variable [Host]

theorem not_mapping_of_conforms {a : Item} {k : Kind} (known : k.isWellKnown) (h : a.conforms k) :
    Template.isMapping a = false := by
  rw [a.conforms_native (Kind.native_of_known known)] at h
  have basic := Kind.known_of_within known h
  cases a with
  | dict ks vs => simp [kind, Kind.isWellKnown] at basic
  | list xs => simp [kind, Kind.isWellKnown] at basic
  | bytes bs => simp [kind, Kind.isWellKnown] at basic
  | _ => rfl

theorem int_of_conforms {a : Item} {k : Kind} (whole : k = .bool ∨ k = .int) (h : a.conforms k) :
    ∃ n, a.int? = some n := by
  have known : k.isWellKnown := by rcases whole with rfl | rfl <;> rfl
  obtain ⟨x, number, kind⟩ := numeric_of_conforms known (by rcases whole with rfl | rfl <;> simp) h
  have base : x.kind = .int := by rw [kind]; rcases whole with rfl | rfl <;> rfl
  cases x with
  | int n => cases a <;> cases number <;> exact ⟨_, rfl⟩
  | _ => cases base

theorem operateUnary_number (op : UnaryOperator) {a : Item} {x : Numeric}
    (h : a.numeric? = some x) : operateUnary op a = x.applyUnary op := by
  simp [operateUnary, not_expression_of_numeric h, h]

theorem operateBinary_numbers (op : BinaryOperator) {a b : Item} {x y : Numeric}
    (left : a.numeric? = some x) (right : b.numeric? = some y) :
    operateBinary op a b = x.apply op y := by
  have values : combineValues op a b = x.apply op y := by simp [combineValues, left, right]
  have first := not_expression_of_numeric left
  have second := not_expression_of_numeric right
  rw [← values]
  cases a <;> cases left <;> cases op <;> simp [operateBinary, sum, combine, first, second]

theorem operateUnary_ensures {op : UnaryOperator} {a : Item} {k r : Kind} (known : k.isWellKnown)
    (result : knownUnary? op k = some r) (h : a.conforms k) :
    Ensures (fun v => v.kind = r) Trouble.IsFault (operateUnary op a) := by
  have number : k ≠ .str := by
    rintro rfl
    cases op <;> cases result
  obtain ⟨x, numeric, kind⟩ := numeric_of_conforms known number h
  rw [operateUnary_number op numeric]
  exact Numeric.applyUnary_ensures (by rw [kind, knownUnary?_base, result])

theorem times_ensures (s : String) (n : Int) {op : BinaryOperator} {k l : Kind}
    (text : k = .str ∨ l = .str) :
    Ensures (fun v => v.kind = .str) (Trouble.Expected op k l) (times (.str s) n) := by
  have repeated : Ensures (fun _ => True) (Trouble.Expected op k l)
      (Sequence.repeated s.toList n (.fault .textTooLong)) := by
    unfold Sequence.repeated
    refine .ite (fun _ => trivial) fun _ => .ite (fun _ => trivial) fun _ => ?_
    exact .ite (fun _ => trivial) fun _ => .ite (fun _ => text) fun _ => trivial
  exact repeated.bind fun cs _ => rfl

theorem operateBinary_times (s : String) {b : Item} {n : Int} (whole : b.int? = some n) :
    operateBinary .mul (.str s) b = times (.str s) n := by
  cases b <;> cases whole <;> rfl

theorem operateBinary_timesText (s : String) {a : Item} {n : Int} (whole : a.int? = some n) :
    operateBinary .mul a (.str s) = times (.str s) n := by
  cases a <;> cases whole <;> rfl

theorem operateBinary_text {op : BinaryOperator} {s : String} {b : Item} {l m : Kind}
    (right : l.isWellKnown) (result : knownBinary? op .str l = some m) (h : b.conforms l) :
    Ensures (fun v => v.kind = m) (Trouble.Expected op .str l) (operateBinary op (.str s) b) := by
  obtain ⟨rfl, ⟨rfl, rfl⟩ | ⟨rfl, whole⟩ | rfl⟩ := knownBinary?_text result
  · obtain ⟨t, rfl⟩ := str_of_conforms h
    exact rfl
  · obtain ⟨n, count⟩ := int_of_conforms whole h
    rw [operateBinary_times s count]
    exact times_ensures s n (.inl rfl)
  · have filled := Template.fillText_ensures s (not_mapping_of_conforms right h)
    exact filled.mono (fun _ kind => kind) fun _ unfilled => unfilled.expected

theorem operateBinary_beforeText {op : BinaryOperator} {a : Item} {s : String} {k m : Kind}
    (other : k ≠ .str) (result : knownBinary? op k .str = some m) (h : a.conforms k) :
    Ensures (fun v => v.kind = m) (Trouble.Expected op k .str) (operateBinary op a (.str s)) := by
  obtain ⟨rfl, rfl, whole⟩ := knownBinary?_before_text other result
  obtain ⟨n, count⟩ := int_of_conforms whole h
  rw [operateBinary_timesText s count]
  exact times_ensures s n (.inr rfl)

theorem operateBinary_ensures {op : BinaryOperator} {a b : Item} {k l m : Kind}
    (left : k.isWellKnown) (right : l.isWellKnown) (result : knownBinary? op k l = some m)
    (first : a.conforms k) (second : b.conforms l) :
    Ensures (fun v => v.kind = m) (Trouble.Expected op k l) (operateBinary op a b) := by
  -- text combines in ways of its own; all else is between numbers
  by_cases text : k = .str
  · subst text
    obtain ⟨s, rfl⟩ := str_of_conforms first
    exact operateBinary_text right result second
  · by_cases other : l = .str
    · subst other
      obtain ⟨s, rfl⟩ := str_of_conforms second
      exact operateBinary_beforeText text result first
    · obtain ⟨x, number, kind⟩ := numeric_of_conforms left text first
      obtain ⟨y, number', kind'⟩ := numeric_of_conforms right other second
      have known : knownBinary? op x.kind y.kind = some m := by
        rw [kind, kind', knownBinary?_base op left right text other, result]
      rw [operateBinary_numbers op number number']
      exact (Numeric.apply_ensures known).mono (fun _ kind => kind) fun _ fault => fault.expected

end Item

end Deferred
