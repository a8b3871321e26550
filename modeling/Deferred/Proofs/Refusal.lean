import Deferred.Proofs.Commutation
import Deferred.Proofs.Operation

-- What is refused over the kinds of its operands.

set_option autoImplicit false

namespace Deferred

open Outcome Deferred.Algebra

namespace Numeric

theorem meet_unsupported {x y : Numeric} (apart : meeting? x.kind y.kind = none) :
    x.meet y = .error .unsupported := by
  cases x <;> cases y <;> first
    | rfl
    | cases apart

theorem rem_unsupported {x y : Numeric} (apart : meeting? x.kind y.kind = none) :
    rem x y = .error .unsupported := by
  cases x <;> cases y <;> first
    | rfl
    | cases apart

-- One of the numbers is complex, and the other a fraction that floating point cannot hold.
def Overflows (x y : Numeric) : Prop :=
  ∃ z q, (x = complex z ∧ y = fraction q ∨ x = fraction q ∧ y = complex z) ∧ Binary64.ofRat? q = none

theorem rem_overflows {x y : Numeric} (overflows : Overflows x y) :
    rem x y = .error (.fault .quotientTooLarge) := by
  obtain ⟨z, q, ⟨rfl, rfl⟩ | ⟨rfl, rfl⟩, large⟩ := overflows <;>
    simp [rem, meet, toFloat, fractionToFloat, large, Except.map, Bind.bind, Except.bind]

theorem rem_complex {x y : Numeric} (met : meeting? x.kind y.kind = some .complex) :
    rem x y = .error .unsupported ∨
      Overflows x y ∧ rem x y = .error (.fault .quotientTooLarge) := by
  cases x <;> cases y <;> cases met
  case complex.fraction z q | fraction.complex q z =>
    cases fits : Binary64.ofRat? q with
    | none =>
      suffices large : Overflows _ _ from .inr ⟨large, rem_overflows large⟩
      exact ⟨z, q, by simp, fits⟩
    | some w =>
      left
      simp [rem, meet, toFloat, fractionToFloat, fits, Except.map, Bind.bind, Except.bind, Matched.mod]
  all_goals exact .inl rfl

theorem apply_refused {op : BinaryOperator} {x y : Numeric}
    (none : knownBinary? op x.kind y.kind = none) :
    x.apply op y = .error .unsupported ∨
      op = .mod ∧ Overflows x y ∧ x.apply op y = .error (.fault .quotientTooLarge) := by
  have text (z : Numeric) : z.kind ≠ .str := by cases z <;> simp [kind]
  rw [knownBinary?_numbers (text x) (text y)] at none
  by_cases apart : meeting? x.kind y.kind = Option.none
  · left
    have stuck := meet_unsupported apart
    cases op with
    | mod => exact rem_unsupported apart
    | _ => simp [apply, stuck, Bind.bind, Except.bind]
  · -- numbers that meet have every operator but the remainder of complex numbers
    obtain ⟨k, met⟩ := Option.ne_none_iff_exists'.1 apart
    cases op with
    | mod =>
      obtain rfl : k = .complex := by simpa [met] using none
      rcases rem_complex met with stuck | ⟨large, fault⟩
      · exact .inl stuck
      · exact .inr ⟨rfl, large, fault⟩
    | _ => simp [met] at none

end Numeric

section

variable [Host]

namespace Algebra

theorem unaryResult_refused {op : UnaryOperator} {k : Kind} {why : Rejection}
    (refused : unaryResult op k = .error why) : why = .unaryKind op k ∧
    (k.isWellKnown → knownUnary? op k = none) ∧ (k.isWellKnown = false → k.offersUnary op = false) := by
  unfold unaryResult at refused
  split at refused
  · cases refused
  · split at refused
    next known =>
      split at refused
      · cases refused
      next none =>
        cases refused
        exact ⟨rfl, fun _ => none, fun foreign => by simp [foreign] at known⟩
    next foreign =>
      split at refused
      · cases refused
      next lacking =>
        cases refused
        exact ⟨rfl, fun known => absurd known foreign, fun _ => by simpa using lacking⟩

theorem binaryResult_refused {op : BinaryOperator} {k l : Kind} {why : Rejection}
    (refused : binaryResult op k l = .error why) : why = .binaryKinds op k l ∧
    mayMeet op k l = false ∧ (k.isWellKnown → l.isWellKnown → knownBinary? op k l = none) := by
  unfold binaryResult at refused
  split at refused
  · cases refused
  · split at refused
    next known =>
      split at refused
      · cases refused
      next none =>
        cases refused
        simp only [Bool.and_eq_true] at known
        exact ⟨rfl, by simp [mayMeet, known], fun _ _ => none⟩
    next foreign =>
      split at refused
      · cases refused
      next apart =>
        cases refused
        exact ⟨rfl, by simpa using apart, fun left right => absurd (by simp [left, right]) foreign⟩

theorem mayMeet_left {op : BinaryOperator} {k : Kind} (foreign : k.isWellKnown = false)
    (offers : k.offersLeft op = true) (l : Kind) : mayMeet op k l = true := by
  simp [mayMeet, foreign, offers]

theorem mayMeet_right {op : BinaryOperator} {l : Kind} (foreign : l.isWellKnown = false)
    (offers : l.offersRight op = true) (k : Kind) : mayMeet op k l = true := by
  simp [mayMeet, foreign, offers]

end Algebra

-- The operator applies to values of the two kinds for all that their kinds tell: the well-known ones have a
-- kind of result, or one of the others brings a method.
def Algebra.Promising (op : BinaryOperator) (k l : Kind) : Prop :=
  mayMeet op k l = true ∨ k.isWellKnown ∧ l.isWellKnown ∧ knownBinary? op k l ≠ none

theorem Clock.apply_promising (op : BinaryOperator) (a b : Item) :
    apply op a b = .error .unsupported ∨ Promising op a.kind b.kind := by
  unfold apply
  split
  · exact .inr (.inl (mayMeet_right rfl rfl _))
  · exact .inr (.inl (mayMeet_right rfl rfl _))
  · exact .inr (.inl (mayMeet_left rfl rfl _))
  · exact .inr (.inl (mayMeet_left rfl rfl _))
  · exact .inl rfl

namespace Item

theorem isWellKnown_tuple (f : TupleForm) (xs : List Item) :
    (tuple f xs).kind.isWellKnown = false ∧ (tuple f xs).kind.offersLeft .add = true ∧
      (tuple f xs).kind.offersLeft .mul = true ∧ (tuple f xs).kind.offersRight .mul = true := by
  cases f <;> exact ⟨rfl, rfl, rfl, rfl⟩

theorem join_promising (a b : Item) :
    join a b = .error .unsupported ∨ Promising .add a.kind b.kind := by
  unfold join
  split
  · exact .inr (.inr ⟨rfl, rfl, nofun⟩)
  · exact .inr (.inl (mayMeet_left rfl rfl _))
  next f xs g ys =>
    obtain ⟨foreign, offers, -⟩ := isWellKnown_tuple f xs
    exact .inr (.inl (mayMeet_left foreign offers _))
  · exact .inr (.inl (mayMeet_left rfl rfl _))
  · exact .inl rfl

theorem difference_promising (a b : Item) :
    difference a b = .error .unsupported ∨ Promising .sub a.kind b.kind := by
  unfold difference
  split
  · exact .inr (.inl (mayMeet_left rfl rfl _))
  · exact .inl rfl

theorem times_repeats (a : Item) (n : Int) :
    times a n = .error .unsupported ∨ a.kind = .str ∨
      a.kind.isWellKnown = false ∧ a.kind.offersLeft .mul = true ∧ a.kind.offersRight .mul = true := by
  cases a with
  | str s => exact .inr (.inl rfl)
  | bytes bs => exact .inr (.inr ⟨rfl, rfl, rfl⟩)
  | list xs => exact .inr (.inr ⟨rfl, rfl, rfl⟩)
  | tuple f xs =>
    obtain ⟨foreign, -, left, right⟩ := isWellKnown_tuple f xs
    exact .inr (.inr ⟨foreign, left, right⟩)
  | _ => exact .inl rfl

theorem promising_count {a : Item} {n : Int} (whole : a.int? = some n) :
    Promising .mul .str a.kind ∧ Promising .mul a.kind .str := by
  cases a with
  | bool b => exact ⟨.inr ⟨rfl, rfl, nofun⟩, .inr ⟨rfl, rfl, nofun⟩⟩
  | int m => exact ⟨.inr ⟨rfl, rfl, nofun⟩, .inr ⟨rfl, rfl, nofun⟩⟩
  | celsius m => exact ⟨.inl rfl, .inl rfl⟩
  | _ => cases whole

theorem combineValues_promising {op : BinaryOperator} {a b : Item}
    (other : a.numeric? = Option.none ∨ b.numeric? = Option.none) :
    combineValues op a b = .error .unsupported ∨ Promising op a.kind b.kind := by
  unfold combineValues
  split
  next left right => rcases other with other | other <;> simp_all
  · split
    · exact Clock.apply_promising op a b
    · cases op with
      | add => exact join_promising a b
      | sub => exact difference_promising a b
      | mul =>
        dsimp only
        split
        next n whole =>
          rcases times_repeats a n with stuck | text | ⟨foreign, left, -⟩
          · exact .inl stuck
          · exact .inr (text ▸ (promising_count whole).1)
          · exact .inr (.inl (mayMeet_left foreign left _))
        next n whole _ =>
          rcases times_repeats b n with stuck | text | ⟨foreign, -, right⟩
          · exact .inl stuck
          · exact .inr (text ▸ (promising_count whole).2)
          · exact .inr (.inl (mayMeet_right foreign right _))
        · exact .inl rfl
      | _ => exact .inl rfl

omit [Host] in
theorem number_known {a : Item} {x : Numeric} (number : a.numeric? = some x) :
    a.kind = .celsius ∨ a.kind.isWellKnown ∧ a.kind ≠ .str ∧ x.kind = a.kind.base := by
  cases a with
  | celsius n => exact .inl rfl
  | _ => cases number <;> exact .inr ⟨rfl, nofun, rfl⟩

theorem numbers_promising {op : BinaryOperator} {a b : Item} {x y : Numeric}
    (left : a.numeric? = some x) (right : b.numeric? = some y)
    (result : knownBinary? op x.kind y.kind ≠ Option.none) : Promising op a.kind b.kind := by
  rcases number_known left with degree | ⟨known, number, base⟩
  · rw [degree]
    exact .inl (mayMeet_left rfl rfl _)
  · rcases number_known right with degree | ⟨known', number', base'⟩
    · rw [degree]
      exact .inl (mayMeet_right rfl rfl _)
    · rw [base, base', knownBinary?_base op known known' number number'] at result
      exact .inr ⟨known, known', result⟩

theorem expression_promising {op : BinaryOperator} {a b : Item}
    (expression : (a.isExpression || b.isExpression) = true) : Promising op a.kind b.kind := by
  rcases Bool.or_eq_true_iff.1 expression with first | second
  · cases a <;> first
      | exact .inl (mayMeet_left rfl rfl _)
      | cases first
  · cases b <;> first
      | exact .inl (mayMeet_right rfl rfl _)
      | cases second

theorem operateBinary_unpromising {op : BinaryOperator} {a b : Item}
    (unpromising : ¬ Promising op a.kind b.kind) (template : op = .mod → a.kind ≠ .str) :
    operateBinary op a b = .error .unsupported ∨
      op = .mod ∧ (∃ x y, a.numeric? = some x ∧ b.numeric? = some y ∧ x.Overflows y) ∧
        operateBinary op a b = .error (.fault .quotientTooLarge) := by
  by_cases numbers : ∃ x y, a.numeric? = some x ∧ b.numeric? = some y
  · obtain ⟨x, y, left, right⟩ := numbers
    have none : knownBinary? op x.kind y.kind = Option.none := by
      by_contra result
      exact unpromising (numbers_promising left right result)
    rw [operateBinary_numbers op left right]
    rcases Numeric.apply_refused none with stuck | ⟨mod, large, fault⟩
    · exact .inl stuck
    · exact .inr ⟨mod, ⟨x, y, left, right, large⟩, fault⟩
  · left
    have values : combineValues op a b = .error .unsupported := by
      refine (combineValues_promising ?_).resolve_right unpromising
      by_contra both
      obtain ⟨left, right⟩ := not_or.1 both
      obtain ⟨x, left⟩ := Option.ne_none_iff_exists'.1 left
      obtain ⟨y, right⟩ := Option.ne_none_iff_exists'.1 right
      exact numbers ⟨x, y, left, right⟩
    have plain : (a.isExpression || b.isExpression) = false := by
      simpa using mt expression_promising unpromising
    have combined : combine op a b = .error .unsupported := by
      unfold combine
      split
      · exact absurd rfl (template rfl)
      · exact absurd (.inl (mayMeet_left rfl rfl _)) unpromising
      · rw [plain]
        exact values
    cases op with
    | add =>
      cases a with
      | meters s kilo n => cases kilo <;> exact absurd (.inl (mayMeet_left rfl rfl _)) unpromising
      | _ => exact combined
    | _ => exact combined

theorem operateUnary_refused {op : UnaryOperator} {x : Item} {why : Rejection}
    (refused : unaryResult op x.kind = .error why) : operateUnary op x = .error .unsupported := by
  obtain ⟨-, known, foreign⟩ := unaryResult_refused refused
  cases x <;> cases op <;> first
    | rfl
    | cases foreign rfl
    | cases known rfl

theorem operateBinary_refused {op : BinaryOperator} {a b : Item} {why : Rejection}
    (refused : binaryResult op a.kind b.kind = .error why)
    (template : ¬ (op = .mod ∧ a.kind = .str ∧ b.kind.isWellKnown = false)) :
    operateBinary op a b = .error .unsupported ∨
      op = .mod ∧ (∃ x y, a.numeric? = some x ∧ b.numeric? = some y ∧ x.Overflows y) ∧
        operateBinary op a b = .error (.fault .quotientTooLarge) := by
  obtain ⟨-, apart, none⟩ := binaryResult_refused refused
  refine operateBinary_unpromising ?_ fun mod text => ?_
  · rintro (methods | ⟨left, right, result⟩)
    · simp [apart] at methods
    · exact result (none left right)
  · -- a text is a template for every well-known kind
    have known : b.kind.isWellKnown := by simpa [mod, text] using template
    subst mod
    rw [text] at none
    cases none rfl known

end Item

namespace Build

theorem computeUnary_str {g : String} {op : UnaryOperator} (found : UnaryOperator.ofGlyph? g = some op)
    (x : Item) : computeUnary (.str g) x = applyUnary op x := by
  have read : glyph? (.str g) = .ok (some g) := rfl
  exact computeUnary_eq read found x

theorem computeBinary_str {g : String} {op : BinaryOperator}
    (found : BinaryOperator.ofGlyph? g = some op) (a b : Item) :
    computeBinary (.str g) a b = applyBinary op a b := by
  have read : glyph? (.str g) = .ok (some g) := rfl
  exact computeBinary_eq read found a b

theorem unaryResult_rejected {g : String} {k : Kind} {why : Rejection}
    (refused : unaryResult g k = .error (.rejected why)) :
    ∃ op, UnaryOperator.ofGlyph? g = some op ∧ Algebra.unaryResult op k = .error why := by
  unfold unaryResult at refused
  split at refused
  · cases refused
  · split at refused
    next op found =>
      obtain ⟨_, result, same⟩ := mapError_error.1 refused
      cases same
      exact ⟨op, found, result⟩
    next => cases refused

theorem binaryResult_rejected {g : String} {k l : Kind} {why : Rejection}
    (refused : binaryResult g k l = .error (.rejected why)) :
    ∃ op, BinaryOperator.ofGlyph? g = some op ∧ Algebra.binaryResult op k l = .error why := by
  unfold binaryResult at refused
  split at refused
  · cases refused
  · split at refused
    next op found =>
      obtain ⟨_, result, same⟩ := mapError_error.1 refused
      cases same
      exact ⟨op, found, result⟩
    next => cases refused

theorem unaryNode_rejected {g : String} {x : Item} {op : UnaryOperator} {k : Kind}
    (refused : unaryNode (.str g) x = .error (.rejected (.unaryKind op k))) :
    ∃ op, UnaryOperator.ofGlyph? g = some op ∧
      ∃ why, Algebra.unaryResult op x.valueKind = .error why := by
  unfold unaryNode at refused
  rcases bind_error.1 refused with unread | ⟨s, read, refused⟩
  · cases unread
  · cases read
    split at refused
    next op found =>
      obtain ⟨why, refused, same⟩ := mapError_error.1 refused
      cases same
      unfold Node.unary at refused
      split at refused
      · rcases bind_error.1 refused with result | ⟨_, -, made⟩
        · exact ⟨op, found, _, result⟩
        · cases made
      · cases refused
    next => cases refused

theorem binaryNode_rejected {g : String} {l r : Item} {op : BinaryOperator} {k m : Kind}
    (refused : binaryNode (.str g) l r = .error (.rejected (.binaryKinds op k m))) :
    ∃ op, BinaryOperator.ofGlyph? g = some op ∧
      ∃ why, Algebra.binaryResult op l.valueKind r.valueKind = .error why := by
  unfold binaryNode at refused
  rcases bind_error.1 refused with unread | ⟨s, read, refused⟩
  · cases unread
  · cases read
    split at refused
    next op found =>
      obtain ⟨why, refused, same⟩ := mapError_error.1 refused
      cases same
      unfold Node.binary at refused
      split at refused
      · rcases bind_error.1 refused with result | ⟨_, -, made⟩
        · exact ⟨op, found, _, result⟩
        · cases made
      · cases refused
    next => cases refused

theorem computeUnary_refused {g : String} {op : UnaryOperator}
    (found : UnaryOperator.ofGlyph? g = some op) {x : Item} {why : Rejection}
    (refused : Algebra.unaryResult op x.kind = .error why) :
    computeUnary (.str g) x = .error .unsupported := by
  rw [computeUnary_str found, applyUnary, Item.operateUnary_refused refused]
  rfl

-- A text on the left of a remainder is a template, and a value of a foreign kind on its right may fill it,
-- though its kind brings no method for that.
def ForeignTemplate (g : String) (k l : Kind) : Prop := g = "%" ∧ k = .str ∧ l.isWellKnown = false

-- A complex number and a fraction that floating point cannot hold are given to a remainder.
def FractionOverflow (g : String) (a b : Item) : Prop :=
  g = "%" ∧ ∃ z q, (a = .complex z ∧ b = .fraction q ∨ a = .fraction q ∧ b = .complex z) ∧
    Binary64.ofRat? q = none

omit [Host] in
theorem fractionOverflow_of_numeric {a b : Item} {x y : Numeric} (left : a.numeric? = some x)
    (right : b.numeric? = some y) (large : x.Overflows y) : FractionOverflow "%" a b := by
  have complex {a : Item} {z : ComplexFloat} (h : a.numeric? = some (.complex z)) : a = .complex z := by
    cases a <;> cases h
    rfl
  have fraction {a : Item} {q : Rat} (h : a.numeric? = some (.fraction q)) : a = .fraction q := by
    cases a <;> cases h
    rfl
  obtain ⟨z, q, ⟨rfl, rfl⟩ | ⟨rfl, rfl⟩, large⟩ := large
  · exact ⟨rfl, z, q, .inl ⟨complex left, fraction right⟩, large⟩
  · exact ⟨rfl, z, q, .inr ⟨fraction left, complex right⟩, large⟩

theorem computeBinary_refused {g : String} {op : BinaryOperator}
    (found : BinaryOperator.ofGlyph? g = some op) {a b : Item} {why : Rejection}
    (refused : Algebra.binaryResult op a.kind b.kind = .error why)
    (template : ¬ ForeignTemplate g a.kind b.kind) :
    computeBinary (.str g) a b = .error .unsupported ∨ FractionOverflow g a b ∧
      computeBinary (.str g) a b = .error (.arithmetic (.binary .mod) .quotientTooLarge) := by
  rw [computeBinary_str found]
  obtain rfl := BinaryOperator.ofGlyph_eq found
  have other : ¬ (op = .mod ∧ a.kind = .str ∧ b.kind.isWellKnown = false) := by
    rintro ⟨rfl, text, foreign⟩
    exact template ⟨rfl, text, foreign⟩
  rcases Item.operateBinary_refused refused other with stuck | ⟨rfl, ⟨x, y, left, right, large⟩, fault⟩
  · left
    rw [applyBinary, stuck]
    rfl
  · right
    rw [applyBinary, fault]
    exact ⟨fractionOverflow_of_numeric left right large, rfl⟩

end Build

/-- What is refused over the kinds of its operands could never have come to anything: the operator does not
apply to any values of those kinds. Set apart are templates of foreign values; and of a complex number and a
fraction too large for floating point, the fault that comes first. -/
theorem refused_hopeless :
    (∀ g k why, Build.unaryResult g k = .error (.rejected why) →
      ∀ x : Item, x.kind = k → Build.computeUnary (.str g) x = .error .unsupported) ∧
    (∀ g k l why, Build.binaryResult g k l = .error (.rejected why) → ¬ Build.ForeignTemplate g k l →
      ∀ a b : Item, a.kind = k → b.kind = l →
        Build.computeBinary (.str g) a b = .error .unsupported ∨ Build.FractionOverflow g a b ∧
          Build.computeBinary (.str g) a b = .error (.arithmetic (.binary .mod) .quotientTooLarge)) ∧
    (∀ g x op k, Build.unaryNode (.str g) x = .error (.rejected (.unaryKind op k)) →
      ∀ v u : Item, v.kind = x.valueKind → Build.computeUnary (.str g) v ≠ .ok u) ∧
    (∀ g l r op k m, Build.binaryNode (.str g) l r = .error (.rejected (.binaryKinds op k m)) →
      ¬ Build.ForeignTemplate g l.valueKind r.valueKind →
      ∀ v w u : Item, v.kind = l.valueKind → w.kind = r.valueKind →
        Build.computeBinary (.str g) v w ≠ .ok u) := by
  refine ⟨?_, ?_, ?_, ?_⟩
  · rintro g _ why refused x rfl
    obtain ⟨op, found, refused⟩ := Build.unaryResult_rejected refused
    exact Build.computeUnary_refused found refused
  · rintro g _ _ why refused template a b rfl rfl
    obtain ⟨op, found, refused⟩ := Build.binaryResult_rejected refused
    exact Build.computeBinary_refused found refused template
  · intro g x op k refused v u kind done
    obtain ⟨op, found, why, refused⟩ := Build.unaryNode_rejected refused
    rw [Build.computeUnary_refused found (kind ▸ refused)] at done
    cases done
  · intro g l r op k m refused template v w u left right done
    obtain ⟨op, found, why, refused⟩ := Build.binaryNode_rejected refused
    rw [← left, ← right] at refused template
    rcases Build.computeBinary_refused found refused template with stuck | ⟨-, fault⟩
    · simp [stuck] at done
    · simp [fault] at done

end

theorem refused_hopeless_mixed :
    Build.unaryResult "~" .decimal = .error (.rejected (.unaryKind .complement .decimal)) ∧
      (∀ d, Build.computeUnary (.str "~") (.decimal d) = .error .unsupported) ∧
      Build.binaryResult "-" .int .meters = .error (.rejected (.binaryKinds .sub .int .meters)) ∧
      (∀ n x, Build.computeBinary (.str "-") (.int n) (.meters 1 false x) = .error .unsupported) ∧
      Build.binaryNode (.str "%") (.placeholder 1 "z" .complex) (.int 2) =
        .error (.rejected (.binaryKinds .mod .complex .int)) ∧
      ∀ z u, Build.computeBinary (.str "%") (.complex z) (.int 2) ≠ .ok u := by
  have unary : Build.unaryResult "~" .decimal = .error (.rejected (.unaryKind .complement .decimal)) := rfl
  have binary : Build.binaryResult "-" .int .meters = .error (.rejected (.binaryKinds .sub .int .meters)) :=
    rfl
  have node : Build.binaryNode (.str "%") (.placeholder 1 "z" .complex) (.int 2) =
      .error (.rejected (.binaryKinds .mod .complex .int)) := rfl
  obtain ⟨values, pairs, -, nodes⟩ := refused_hopeless
  refine ⟨unary, fun d => values _ _ _ unary _ rfl, binary, fun n x => ?_, node, fun z u => ?_⟩
  · rcases pairs _ _ _ _ binary (by simp [Build.ForeignTemplate]) (.int n) (.meters 1 false x) rfl rfl with
      stuck | ⟨overflow, -⟩
    · exact stuck
    · simp [Build.FractionOverflow] at overflow
  · exact nodes _ _ _ _ _ _ node (by simp [Build.ForeignTemplate, Item.valueKind]) _ _ u rfl rfl

/-- A template is refused over the kind of its values and yet takes them, and a remainder of a complex number
faults on a huge fraction. -/
theorem refused_yet_apt :
    let huge : Rat := .ofInt (Nat.pow 10 400)
    Build.binaryResult "%" .str .tuple = .error (.rejected (.binaryKinds .mod .str .tuple)) ∧
      Build.computeBinary (.str "%") (.str "%s/%s") (.tuple .plain [.int 5, .int 6]) = .ok (.str "5/6") ∧
      Build.binaryResult "%" .complex .fraction =
        .error (.rejected (.binaryKinds .mod .complex .fraction)) ∧
      Build.computeBinary (.str "%") (.complex ⟨.zero false, .zero false⟩) (.fraction huge) =
        .error (.arithmetic (.binary .mod) .quotientTooLarge) := by
  intro huge
  have large : Binary64.ofRat? huge = none := by decide +kernel
  have found : BinaryOperator.ofGlyph? "%" = some .mod := rfl
  refine ⟨rfl, rfl, rfl, ?_⟩
  rw [Build.computeBinary_str found, applyBinary, Item.operateBinary_numbers .mod rfl rfl, Numeric.apply,
    Numeric.rem_overflows ⟨_, _, .inl ⟨rfl, rfl⟩, large⟩]
  rfl

end Deferred
