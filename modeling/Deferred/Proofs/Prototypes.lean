import Deferred.Proofs.Operation

-- Where the tables of the well-known kinds come from: from the operators themselves, tried on one value of each
-- kind.

set_option autoImplicit false

namespace Deferred

-- None of these is zero, so that all of them can be divided by.
def Kind.prototype? : Kind → Option Item
  | bool => some (.bool true)
  | int => some (.int 3)
  | float => some (.float (.ofRat false 3))
  | complex => some (.complex ⟨.ofRat false 3, .ofRat false 1⟩)
  | fraction => some (.fraction (mkRat 3 2))
  | decimal => some (.decimal (.ofInt 3))
  | str => some (.str "%s")
  | _ => .none

theorem Kind.prototype_kind {k : Kind} {x : Item} (represents : k.prototype? = some x) :
    x.kind = k ∧ k.isWellKnown := by
  cases k <;> cases represents <;> exact ⟨rfl, rfl⟩

namespace Algebra

def attests : Except Trouble Item → Option Kind → Bool
  | .ok v, some k => v.kind == k
  | .error .unsupported, none => true
  | _, _ => false

theorem attests_some {r : Except Trouble Item} {k : Kind} :
    attests r (some k) ↔ ∃ v, r = .ok v ∧ v.kind = k := by
  cases r with
  | ok v => simp [attests]
  | error t => cases t <;> simp [attests]

theorem attests_none {r : Except Trouble Item} : attests r none ↔ r = .error .unsupported := by
  cases r with
  | ok v => simp [attests]
  | error t => cases t <;> simp [attests]

theorem answer_exact {r : Except Trouble Item} {entry : Option Kind} {answer : Except Rejection Kind}
    {refusal : Rejection} (found : answer = entry.elim (.error refusal) .ok) (tried : attests r entry) :
    (∀ k, answer = .ok k ↔ ∃ v, r = .ok v ∧ v.kind = k) ∧
      (answer = .error refusal ↔ r = .error .unsupported) := by
  cases entry with
  | some k =>
    obtain ⟨v, done, kind⟩ := attests_some.1 tried
    simp [found, done, kind]
  | none => simp [found, attests_none.1 tried]

def numbers : List (Kind × Numeric) := [
  (.bool, .int 1),
  (.int, .int 3),
  (.float, .float (.ofRat false 3)),
  (.complex, .complex ⟨.ofRat false 3, .ofRat false 1⟩),
  (.fraction, .fraction (mkRat 3 2)),
  (.decimal, .decimal (.ofInt 3))]

theorem prototype_cases {k : Kind} {x : Item} (represents : k.prototype? = some x) :
    (k = .str ∧ x = .str "%s") ∨ ∃ p, (k, p) ∈ numbers ∧ x.numeric? = some p := by
  cases k with
  | str => cases represents; exact .inl ⟨rfl, rfl⟩
  | bool | int | float | complex | fraction | decimal =>
    cases represents
    exact .inr ⟨_, by simp [numbers], rfl⟩
  | _ => cases represents

theorem unary_numbers : ∀ p ∈ numbers, ∀ op ∈ UnaryOperator.all,
    attests (p.2.applyUnary op) (knownUnary? op p.1) := by decide +kernel

theorem binary_numbers : ∀ p ∈ numbers, ∀ q ∈ numbers, ∀ op ∈ BinaryOperator.all,
    attests (p.2.apply op q.2) (knownBinary? op p.1 q.1) := by decide +kernel

end Algebra

variable [Host]

theorem Template.fillText_single {y : Item} (supplied : supply isMapping y = ⟨[y], none⟩)
    (legible : y.isWritable) : fillText "%s" y = .ok (.str y.text) := by
  have laid (cs : List Char) : (⟨{}, none, none, 's'⟩ : Directive).lay false cs = .ok cs := by
    simp [Directive.lay]
  have converted : (⟨{}, none, none, 's'⟩ : Directive).convert y = .ok y.text.toList := by
    rw [Directive.convert, if_pos rfl, written, if_pos legible]
    exact laid _
  have read : directive ['s'] ⟨[y], none⟩ = .ok (⟨{}, none, none, 's'⟩, [], ⟨[y], none⟩) := rfl
  have filled : fill Directive.convert 2 ['%', 's'] ⟨[y], none⟩ = .ok y.text.toList := by
    rw [fill, read]
    simp [Supply.next, converted, fill, Bind.bind, Except.bind]
  rw [fillText, supplied]
  change (fill Directive.convert 2 ['%', 's'] ⟨[y], none⟩ >>= _) = _
  rw [filled]
  simp [Bind.bind, Except.bind]

namespace Algebra

theorem unary_tried (op : UnaryOperator) {k : Kind} {x : Item} (represents : k.prototype? = some x) :
    attests (Item.operateUnary op x) (knownUnary? op k) := by
  rcases prototype_cases represents with ⟨rfl, rfl⟩ | ⟨p, listed, number⟩
  · cases op <;> rfl
  · rw [Item.operateUnary_number op number]
    exact unary_numbers _ listed op (by cases op <;> decide)

theorem unaryResult_tried (op : UnaryOperator) {k : Kind} {x : Item} (represents : k.prototype? = some x) :
    (∀ r, unaryResult op k = .ok r ↔ ∃ v, Item.operateUnary op x = .ok v ∧ v.kind = r) ∧
      (unaryResult op k = .error (.unaryKind op k) ↔ Item.operateUnary op x = .error .unsupported) := by
  have known : k.isWellKnown := (Kind.prototype_kind represents).2
  have native : k ≠ .any := by
    rintro rfl
    cases represents
  refine answer_exact ?_ (unary_tried op represents)
  rw [unaryResult, if_neg native, if_pos known]
  cases knownUnary? op k <;> rfl

variable (roomy : 6 ≤ Host.room)

include roomy

theorem times_prototype {n : Int} (least : 0 ≤ n) (most : n ≤ 3) : attests (Item.times (.str "%s") n) (some .str) := by
  have whole : ¬ (n < -Sequence.greatestSize - 1 ∨ Sequence.greatestSize < n) := by
    simp only [Sequence.greatestSize]; omega
  have short : ¬ Sequence.greatestSize < n * ['%', 's'].length := by
    simp only [Sequence.greatestSize, List.length_cons, List.length_nil]; omega
  have fits : ¬ (Host.room : Int) < n * ['%', 's'].length := by
    simp only [List.length_cons, List.length_nil]; omega
  have repeated : ∃ cs, Sequence.repeated ['%', 's'] n (.fault .textTooLong) = .ok cs := by
    rw [Sequence.repeated, if_neg whole, if_neg short, if_neg fits]
    split <;> exact ⟨_, rfl⟩
  obtain ⟨cs, repeated⟩ := repeated
  change attests (do .ok (.str (String.ofList (← Sequence.repeated ['%', 's'] n _)))) _
  rw [repeated]
  rfl

theorem text_left (op : BinaryOperator) {l : Kind} {y : Item} (represents : l.prototype? = some y) :
    attests (Item.operateBinary op (.str "%s") y) (knownBinary? op .str l) := by
  cases op with
  | add | sub | div =>
    cases l <;> cases represents <;> rfl
  | mul =>
    cases l with
    | bool | int => cases represents; exact times_prototype roomy (by decide) (by decide)
    | _ => cases represents <;> rfl
  | mod =>
    have filled : Template.fillText "%s" y = .ok (.str y.text) := by
      refine Template.fillText_single ?_ ?_ <;> cases l <;> cases represents <;> rfl
    exact attests_some.2 ⟨_, filled, rfl⟩

theorem text_right (op : BinaryOperator) {k : Kind} {x : Item} (represents : k.prototype? = some x) (other : k ≠ .str) :
    attests (Item.operateBinary op x (.str "%s")) (knownBinary? op k .str) := by
  cases op with
  | mul =>
    cases k with
    | bool | int => cases represents; exact times_prototype roomy (by decide) (by decide)
    | str => exact absurd rfl other
    | _ => cases represents <;> rfl
  | _ =>
    cases k <;> first
      | exact absurd rfl other
      | (cases represents; done)
      | (cases represents; rfl)

theorem binary_tried (op : BinaryOperator) {k l : Kind} {x y : Item} (left : k.prototype? = some x)
    (right : l.prototype? = some y) : attests (Item.operateBinary op x y) (knownBinary? op k l) := by
  rcases prototype_cases left with ⟨rfl, rfl⟩ | ⟨p, listed, number⟩
  · exact text_left roomy op right
  rcases prototype_cases right with ⟨rfl, rfl⟩ | ⟨q, listed', number'⟩
  · refine text_right roomy op left ?_
    rintro rfl
    cases left
    cases number
  · rw [Item.operateBinary_numbers op number number']
    exact binary_numbers _ listed _ listed' op (by cases op <;> decide)

-- Between well-known kinds an operator has the result that it has for their prototypes, and it is refused
-- where it does not apply to these.
theorem binaryResult_tried (op : BinaryOperator) {k l : Kind} {x y : Item} (left : k.prototype? = some x)
    (right : l.prototype? = some y) :
    (∀ r, binaryResult op k l = .ok r ↔ ∃ v, Item.operateBinary op x y = .ok v ∧ v.kind = r) ∧
      (binaryResult op k l = .error (.binaryKinds op k l) ↔ Item.operateBinary op x y = .error .unsupported) := by
  have known : k.isWellKnown && l.isWellKnown :=
    Bool.and_eq_true_iff.2 ⟨(Kind.prototype_kind left).2, (Kind.prototype_kind right).2⟩
  have native : ¬ (k = .any ∨ l = .any) := by
    rintro (rfl | rfl)
    · cases left
    · cases right
  refine answer_exact ?_ (binary_tried roomy op left right)
  rw [binaryResult, if_neg native, if_pos known]
  cases knownBinary? op k l <;> rfl

end Algebra

end Deferred
