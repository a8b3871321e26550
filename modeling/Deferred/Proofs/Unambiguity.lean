import Deferred.Item.Text
import Mathlib.Data.List.Forall2

-- Formulas can be read back: two that look alike come from the same tree.

set_option autoImplicit false

namespace Deferred

-- The characters that formulas are put together with.
def punctuation : List Char := ['(', ')', '+', '-', '*', '/', '%', '~', ',', ' ']

structure PlainName (name : String) : Prop where
  filled : name ≠ ""
  start : ∀ c ∈ name.toList.head?, c.isDigit = false
  free : ∀ c ∈ name.toList, c ∉ punctuation

namespace Item

inductive Leaf : Item → Prop
  | int {n : Int} (natural : 0 ≤ n) : Leaf (.int n)
  | placeholder {s : Nat} {n : String} {k : Kind} (name : PlainName n) : Leaf (.placeholder s n k)

inductive Plain : Item → Prop
  | leaf {x : Item} (single : Leaf x) : Plain x
  | unary {s : Nat} {op : UnaryOperator} {x : Item} {k : Kind} (operand : Plain x) :
      Plain (.unary s op x k)
  | binary {s : Nat} {op : BinaryOperator} {l r : Item} {k : Kind} (left : Plain l) (right : Plain r) :
      Plain (.binary s op l r k)
  | tuple {xs : List Item} (parts : ∀ x ∈ xs, Plain x) (several : xs.length ≠ 1) :
      Plain (.tuple .plain xs)

/-- The same tree, with the same operators, names and numbers. Kinds and identities may differ. -/
inductive SameTree : Item → Item → Prop
  | int (n : Int) : SameTree (.int n) (.int n)
  | placeholder {s t : Nat} {n : String} {k l : Kind} :
      SameTree (.placeholder s n k) (.placeholder t n l)
  | unary {s t : Nat} {op : UnaryOperator} {x y : Item} {k l : Kind} (operand : SameTree x y) :
      SameTree (.unary s op x k) (.unary t op y l)
  | binary {s t : Nat} {op : BinaryOperator} {x y u v : Item} {k l : Kind} (left : SameTree x y)
      (right : SameTree u v) : SameTree (.binary s op x u k) (.binary t op y v l)
  | tuple {f : TupleForm} {xs ys : List Item} (parts : List.Forall₂ SameTree xs ys) :
      SameTree (.tuple f xs) (.tuple f ys)

def operandText (x : Item) : List Char := parenthesized x.isComposite x.formula

end Item

def Stops (cs : List Char) : Prop := ∀ c, cs.head? = some c → c ∈ punctuation

def Ends (cs : List Char) : Prop := ∀ c, cs.head? = some c → c = ')' ∨ c = ','

theorem Stops.cons {c : Char} (mark : c ∈ punctuation) (cs : List Char) : Stops (c :: cs) := by
  rintro _ ⟨⟩
  exact mark

theorem Ends.close (cs : List Char) : Ends (')' :: cs) := by
  rintro _ ⟨⟩
  exact .inl rfl

theorem Ends.comma (cs : List Char) : Ends (',' :: cs) := by
  rintro _ ⟨⟩
  exact .inr rfl

theorem Ends.stops {cs : List Char} (ends : Ends cs) : Stops cs := by
  intro c first
  rcases ends c first with rfl | rfl <;> decide

theorem UnaryOperator.glyph_mark (op : UnaryOperator) :
    op.glyph ∈ punctuation ∧ op.glyph ≠ '(' ∧ op.glyph ≠ ')' := by
  cases op <;> decide

theorem BinaryOperator.glyph_mark (op : BinaryOperator) :
    op.glyph ∈ punctuation ∧ op.glyph ≠ ')' ∧ op.glyph ≠ ',' := by
  cases op <;> decide

theorem UnaryOperator.glyph_inj {op op' : UnaryOperator} (same : op.glyph = op'.glyph) : op = op' := by
  cases op <;> cases op' <;> first
    | rfl
    | simp [glyph] at same

theorem BinaryOperator.glyph_inj {op op' : BinaryOperator} (same : op.glyph = op'.glyph) : op = op' := by
  cases op <;> cases op' <;> first
    | rfl
    | simp [glyph] at same

theorem takeWhile_word {a s : List Char} (word : ∀ c ∈ a, c ∉ punctuation) (stops : Stops s) :
    (a ++ s).takeWhile (· ∉ punctuation) = a := by
  rw [List.takeWhile_append_of_pos (by simpa using word)]
  cases s with
  | nil => simp
  | cons c s => simp [stops c rfl]

theorem words_apart {a b s t : List Char} (left : ∀ c ∈ a, c ∉ punctuation)
    (right : ∀ c ∈ b, c ∉ punctuation) (before : Stops s) (behind : Stops t) (same : a ++ s = b ++ t) :
    a = b ∧ s = t := by
  have words : a = b := by
    rw [← takeWhile_word left before, same, takeWhile_word right behind]
  subst words
  exact ⟨rfl, List.append_cancel_left same⟩

theorem digit_free {c : Char} (digit : c.isDigit) : c ∉ punctuation := by
  intro mark
  have none : ∀ d ∈ punctuation, d.isDigit = false := by simp [punctuation, Char.isDigit]
  rw [none c mark] at digit
  cases digit

namespace Item

theorem formula_int (n : Nat) : (Item.int n).formula = Nat.toDigits 10 n := by
  have digits : (Item.int n).formula = n.repr.toList := rfl
  rw [digits, Nat.repr, String.toList_ofList]

theorem int_digits {n : Int} (natural : 0 ≤ n) :
    (Item.int n).formula ≠ [] ∧ ∀ c ∈ (Item.int n).formula, c.isDigit := by
  obtain ⟨m, rfl⟩ := Int.eq_ofNat_of_zero_le natural
  rw [formula_int]
  exact ⟨Nat.toDigits_ne_nil, fun c digit => Nat.isDigit_of_mem_toDigits (by decide) (by decide) digit⟩

theorem formula_placeholder (s : Nat) (n : String) (k : Kind) : (placeholder s n k).formula = n.toList := rfl

namespace Leaf

variable {x y : Item}

theorem simple (leaf : x.Leaf) : x.isComposite = false := by
  cases leaf <;> rfl

theorem filled (leaf : x.Leaf) : x.formula ≠ [] := by
  cases leaf with
  | int natural => exact (int_digits natural).1
  | placeholder name => exact fun empty => name.filled (String.toList_eq_nil_iff.1 empty)

theorem word (leaf : x.Leaf) : ∀ c ∈ x.formula, c ∉ punctuation := by
  cases leaf with
  | int natural => exact fun c among => digit_free ((int_digits natural).2 c among)
  | placeholder name => exact name.free

theorem ne_open (leaf : x.Leaf) (cs ds : List Char) : x.formula ++ cs ≠ '(' :: ds := by
  obtain ⟨c, rest, first⟩ := List.exists_cons_of_ne_nil leaf.filled
  intro same
  rw [first] at same
  obtain rfl : c = '(' := (List.cons.inj same).1
  exact leaf.word '(' (by simp [first]) (by decide)

theorem int_ne_placeholder {m : Int} {s : Nat} {n : String} {k : Kind} (natural : 0 ≤ m)
    (name : PlainName n) : (Item.int m).formula ≠ (Item.placeholder s n k).formula := by
  intro same
  obtain ⟨c, cs, first⟩ := List.exists_cons_of_ne_nil (int_digits natural).1
  have digit := (int_digits natural).2 c (by simp [first])
  rw [name.start c (by rw [← formula_placeholder s n k, ← same, first]; rfl)] at digit
  cases digit

theorem same (left : x.Leaf) (right : y.Leaf) (alike : x.formula = y.formula) : SameTree x y := by
  cases left with
  | @int m natural =>
    cases right with
    | @int n natural' =>
      obtain ⟨i, rfl⟩ := Int.eq_ofNat_of_zero_le natural
      obtain ⟨j, rfl⟩ := Int.eq_ofNat_of_zero_le natural'
      rw [formula_int, formula_int] at alike
      have numbers : i = j := by
        rw [← Nat.ofDigitChars_ten_toDigits (n := i), alike, Nat.ofDigitChars_ten_toDigits]
      exact numbers ▸ .int i
    | placeholder name => exact absurd alike (int_ne_placeholder natural name)
  | @placeholder s n k name =>
    cases right with
    | int natural => exact absurd alike.symm (int_ne_placeholder natural name)
    | @placeholder t m l _ =>
      obtain rfl : n = m := String.toList_injective alike
      exact .placeholder

end Leaf

theorem Plain.simple_or_node {x : Item} (plain : x.Plain) :
    x.isComposite = false ∨ (∃ s op y k, x = .unary s op y k ∧ y.Plain) ∨
      ∃ s op l r k, x = .binary s op l r k ∧ l.Plain ∧ r.Plain := by
  cases plain with
  | leaf single => exact .inl single.simple
  | unary operand => exact .inr (.inl ⟨_, _, _, _, rfl, operand⟩)
  | binary left right => exact .inr (.inr ⟨_, _, _, _, _, rfl, left, right⟩)
  | tuple parts several => exact .inl rfl

theorem Plain.leaf_or_tuple {x : Item} (plain : x.Plain) (simple : x.isComposite = false) :
    x.Leaf ∨ ∃ xs, x = .tuple .plain xs ∧ (∀ y ∈ xs, y.Plain) ∧ xs.length ≠ 1 := by
  cases plain with
  | leaf single => exact .inl single
  | unary operand => cases simple
  | binary left right => cases simple
  | tuple parts several => exact .inr ⟨_, rfl, parts, several⟩

theorem operandText_simple {x : Item} (simple : x.isComposite = false) : x.operandText = x.formula := by
  rw [operandText, simple]
  rfl

theorem operandText_composite {x : Item} (composite : x.isComposite = true) (cs : List Char) :
    x.operandText ++ cs = '(' :: (x.formula ++ ')' :: cs) := by
  rw [operandText, composite]
  simp [parenthesized]

theorem formula_unary (s : Nat) (op : UnaryOperator) (x : Item) (k : Kind) :
    (unary s op x k).formula = op.glyph :: x.operandText := by
  rw [formula, operandText]

theorem formula_binary (s : Nat) (op : BinaryOperator) (l r : Item) (k : Kind) :
    (binary s op l r k).formula = l.operandText ++ op.glyph :: r.operandText := by
  rw [formula, operandText, operandText]

def Opens (c : Char) : Prop := c = '(' ∨ c ∉ punctuation

theorem Opens.not_glyph {c : Char} (opens : Opens c) (op : UnaryOperator) : c ≠ op.glyph := by
  rintro rfl
  obtain ⟨mark, other, -⟩ := op.glyph_mark
  exact opens.elim other fun none => none mark

theorem Opens.not_close {c : Char} (opens : Opens c) : c ≠ ')' := by
  rintro rfl
  exact absurd opens (by simp [Opens, punctuation])

theorem Plain.operandText_head {x : Item} (plain : x.Plain) :
    ∃ c cs, x.operandText = c :: cs ∧ Opens c := by
  cases composite : x.isComposite with
  | true => exact ⟨'(', _, by rw [operandText, composite]; rfl, .inl rfl⟩
  | false =>
    rw [operandText_simple composite]
    rcases plain.leaf_or_tuple composite with leaf | ⟨xs, rfl, -, -⟩
    · obtain ⟨c, cs, first⟩ := List.exists_cons_of_ne_nil leaf.filled
      exact ⟨c, cs, first, .inr (leaf.word c (by simp [first]))⟩
    · exact ⟨'(', _, by rw [formula]; rfl, .inl rfl⟩

theorem Plain.formula_head {x : Item} (plain : x.Plain) : ∃ c cs, x.formula = c :: cs ∧ c ≠ ')' := by
  rcases plain.simple_or_node with simple | ⟨s, op, y, k, rfl, -⟩ | ⟨s, op, l, r, k, rfl, left, -⟩
  · obtain ⟨c, cs, first, opens⟩ := plain.operandText_head
    exact ⟨c, cs, by rw [← operandText_simple simple, first], opens.not_close⟩
  · exact ⟨op.glyph, _, formula_unary s op y k, op.glyph_mark.2.2⟩
  · obtain ⟨c, cs, first, opens⟩ := left.operandText_head
    exact ⟨c, cs ++ op.glyph :: r.operandText, by rw [formula_binary, first]; rfl, opens.not_close⟩

theorem Plain.operandText_ne_glyph {x : Item} (plain : x.Plain) (op : UnaryOperator) (cs ds : List Char) :
    x.operandText ++ cs ≠ op.glyph :: ds := by
  obtain ⟨c, rest, first, opens⟩ := plain.operandText_head
  rw [first]
  exact fun same => opens.not_glyph op (List.cons.inj same).1

def OperandReads (x : Item) : Prop :=
  ∀ y, y.Plain → ∀ s t, Stops s → Stops t → x.operandText ++ s = y.operandText ++ t → SameTree x y ∧ s = t

def FormulaReads (x : Item) : Prop :=
  ∀ y, y.Plain → ∀ s t, Ends s → Ends t → x.formula ++ s = y.formula ++ t → SameTree x y ∧ s = t

def partsAfter (s : List Char) : List Item → List Char
  | [] => ')' :: s
  | y :: ys => ',' :: ' ' :: (formulas (y :: ys) ++ ')' :: s)

theorem formulas_cons (x : Item) (xs : List Item) (s : List Char) :
    formulas (x :: xs) ++ ')' :: s = x.formula ++ partsAfter s xs := by
  cases xs <;> simp [formulas, partsAfter]

theorem partsAfter_ends (s : List Char) (xs : List Item) : Ends (partsAfter s xs) := by
  cases xs with
  | nil => exact .close s
  | cons y ys => exact .comma _

theorem formulas_ne_close {x : Item} (plain : x.Plain) (xs : List Item) (s t : List Char) :
    formulas (x :: xs) ++ ')' :: s ≠ ')' :: t := by
  obtain ⟨c, cs, first, other⟩ := plain.formula_head
  rw [formulas_cons, first]
  exact fun same => other (List.cons.inj same).1

theorem formulas_read {xs : List Item} (plain : ∀ x ∈ xs, x.Plain) (reads : ∀ x ∈ xs, FormulaReads x) :
    ∀ ys : List Item, (∀ y ∈ ys, y.Plain) → ∀ s t,
      formulas xs ++ ')' :: s = formulas ys ++ ')' :: t → List.Forall₂ SameTree xs ys ∧ s = t := by
  induction xs with
  | nil =>
    intro ys parts s t same
    cases ys with
    | nil => exact ⟨.nil, (List.cons.inj same).2⟩
    | cons y ys => exact absurd same.symm (formulas_ne_close (parts y (by simp)) ys t s)
  | cons x xs ih =>
    intro ys parts s t same
    cases ys with
    | nil => exact absurd same (formulas_ne_close (plain x (by simp)) xs s t)
    | cons y ys =>
      rw [formulas_cons, formulas_cons] at same
      obtain ⟨first, rest⟩ := reads x (by simp) y (parts y (by simp)) _ _ (partsAfter_ends s xs)
        (partsAfter_ends t ys) same
      -- the same mark follows both: the end of the tuple, or the comma before the next part
      cases xs with
      | nil =>
        cases ys with
        | nil => exact ⟨.cons first .nil, (List.cons.inj rest).2⟩
        | cons z zs => cases rest
      | cons w ws =>
        cases ys with
        | nil => cases rest
        | cons z zs =>
          obtain ⟨others, after⟩ := ih (fun v among => plain v (List.mem_cons_of_mem _ among))
            (fun v among => reads v (List.mem_cons_of_mem _ among)) (z :: zs)
            (fun v among => parts v (List.mem_cons_of_mem _ among)) s t
            (List.cons.inj (List.cons.inj rest).2).2
          exact ⟨.cons first others, after⟩

theorem enclosed_ne_tuple {z : Item} {xs : List Item} (plain : z.Plain) (several : xs.length ≠ 1)
    (agree : ∀ x ∈ xs, ∀ u v, Ends u → Ends v → z.formula ++ u = x.formula ++ v → u = v)
    (s t : List Char) : z.formula ++ ')' :: s ≠ formulas xs ++ ')' :: t := by
  intro same
  cases xs with
  | nil =>
    obtain ⟨c, cs, first, other⟩ := plain.formula_head
    rw [first] at same
    exact other (List.cons.inj same).1
  | cons x xs =>
    rw [formulas_cons] at same
    have rest := agree x (by simp) _ _ (.close s) (partsAfter_ends t xs) same
    cases xs with
    | nil => exact several rfl
    | cons y ys => cases rest

theorem formula_tuple (xs : List Item) (cs : List Char) :
    (tuple .plain xs).operandText ++ cs = '(' :: (formulas xs ++ ')' :: cs) := by
  rw [operandText_simple rfl, formula]
  simp

theorem Leaf.reads {x : Item} (leaf : x.Leaf) : OperandReads x := by
  intro y plain s t stops stops' same
  rw [operandText_simple leaf.simple] at same
  cases composite : y.isComposite with
  | true =>
    rw [operandText_composite composite] at same
    exact absurd same (leaf.ne_open s _)
  | false =>
    rcases plain.leaf_or_tuple composite with leaf' | ⟨ys, rfl, -, -⟩
    · rw [operandText_simple composite] at same
      obtain ⟨alike, rest⟩ := words_apart leaf.word leaf'.word stops stops' same
      exact ⟨leaf.same leaf' alike, rest⟩
    · rw [formula_tuple] at same
      exact absurd same (leaf.ne_open s _)

theorem tuple_reads {xs : List Item} (parts : ∀ x ∈ xs, x.Plain) (several : xs.length ≠ 1)
    (reads : ∀ x ∈ xs, FormulaReads x) : OperandReads (.tuple .plain xs) := by
  intro y plain s t stops stops' same
  rw [formula_tuple] at same
  cases composite : y.isComposite with
  | true =>
    rw [operandText_composite composite] at same
    refine absurd (List.cons.inj same).2.symm (enclosed_ne_tuple plain several (fun x among => ?_) t s)
    exact fun u v ends ends' alike => (reads x among y plain v u ends' ends alike.symm).2.symm
  | false =>
    rcases plain.leaf_or_tuple composite with leaf | ⟨ys, rfl, parts', -⟩
    · rw [operandText_simple composite] at same
      exact absurd same.symm (leaf.ne_open t _)
    · rw [formula_tuple] at same
      obtain ⟨alike, rest⟩ := formulas_read parts reads ys parts' s t (List.cons.inj same).2
      exact ⟨.tuple alike, rest⟩

theorem composite_reads {x : Item} (composite : x.isComposite = true) (plain : x.Plain)
    (reads : FormulaReads x) : OperandReads x := by
  intro y plain' s t stops stops' same
  rw [operandText_composite composite] at same
  cases composite' : y.isComposite with
  | true =>
    rw [operandText_composite composite'] at same
    obtain ⟨alike, rest⟩ := reads y plain' _ _ (.close s) (.close t) (List.cons.inj same).2
    exact ⟨alike, (List.cons.inj rest).2⟩
  | false =>
    rcases plain'.leaf_or_tuple composite' with leaf | ⟨ys, rfl, parts, several⟩
    · rw [operandText_simple composite'] at same
      exact absurd same.symm (leaf.ne_open t _)
    · rw [formula_tuple] at same
      refine absurd (List.cons.inj same).2 (enclosed_ne_tuple plain several (fun z among => ?_) s t)
      exact fun u v ends ends' alike => (reads z (parts z among) u v ends ends' alike).2

theorem glyph_not_ends (op : BinaryOperator) (cs : List Char) : ¬ Ends (op.glyph :: cs) := by
  obtain ⟨-, close, comma⟩ := op.glyph_mark
  exact fun ends => (ends op.glyph rfl).elim close comma

theorem glyph_stops (op : BinaryOperator) (cs : List Char) : Stops (op.glyph :: cs) :=
  .cons op.glyph_mark.1 cs

theorem simple_formula_reads {x : Item} (simple : x.isComposite = false) (plain : x.Plain)
    (reads : OperandReads x) : FormulaReads x := by
  intro y plain' s t ends ends' same
  rw [← operandText_simple simple] at same
  rcases plain'.simple_or_node with simple' | ⟨u, op, z, k, rfl, -⟩ | ⟨u, op, l, r, k, rfl, left, -⟩
  · rw [← operandText_simple simple'] at same
    exact reads y plain' s t ends.stops ends'.stops same
  · rw [formula_unary] at same
    exact absurd same (plain.operandText_ne_glyph op _ _)
  · -- the operand would be followed by an operator, which ends no formula
    rw [formula_binary, List.append_assoc] at same
    obtain ⟨-, rfl⟩ := reads l left _ _ ends.stops (glyph_stops op _) same
    exact absurd ends (glyph_not_ends op _)

theorem unary_formula_reads {s : Nat} {op : UnaryOperator} {x : Item} {k : Kind} (reads : OperandReads x) :
    FormulaReads (.unary s op x k) := by
  intro y plain u v ends ends' same
  rw [formula_unary] at same
  rcases plain.simple_or_node with simple | ⟨s', op', z, k', rfl, operand⟩ | ⟨s', op', l, r, k', rfl, left, -⟩
  · rw [← operandText_simple simple] at same
    exact absurd same.symm (plain.operandText_ne_glyph op _ _)
  · rw [formula_unary] at same
    obtain ⟨glyphs, operands⟩ := List.cons.inj same
    obtain rfl := UnaryOperator.glyph_inj glyphs
    obtain ⟨alike, rest⟩ := reads z operand u v ends.stops ends'.stops operands
    exact ⟨.unary alike, rest⟩
  · rw [formula_binary, List.append_assoc] at same
    exact absurd same.symm (left.operandText_ne_glyph op _ _)

theorem binary_formula_reads {s : Nat} {op : BinaryOperator} {l r : Item} {k : Kind} (left : l.Plain)
    (first : OperandReads l) (second : OperandReads r) : FormulaReads (.binary s op l r k) := by
  intro y plain u v ends ends' same
  rw [formula_binary, List.append_assoc] at same
  rcases plain.simple_or_node with simple | ⟨s', op', z, k', rfl, -⟩ | ⟨s', op', l', r', k', rfl, left', right'⟩
  · rw [← operandText_simple simple] at same
    obtain ⟨-, rfl⟩ := first y plain _ _ (glyph_stops op _) ends'.stops same
    exact absurd ends' (glyph_not_ends op _)
  · rw [formula_unary] at same
    exact absurd same (left.operandText_ne_glyph op' _ _)
  · rw [formula_binary, List.append_assoc] at same
    obtain ⟨alike, rest⟩ := first l' left' _ _ (glyph_stops op _) (glyph_stops op' _) same
    obtain ⟨glyphs, operands⟩ := List.cons.inj rest
    obtain rfl := BinaryOperator.glyph_inj glyphs
    obtain ⟨alike', after⟩ := second r' right' u v ends.stops ends'.stops operands
    exact ⟨.binary alike alike', after⟩

theorem Plain.reads {x : Item} (plain : x.Plain) : OperandReads x ∧ FormulaReads x := by
  -- a node is read as a formula first, and then in its parentheses; all else is an operand first
  induction plain with
  | leaf single => exact ⟨single.reads, simple_formula_reads single.simple (.leaf single) single.reads⟩
  | @unary s op x k operand ih =>
    have formula : FormulaReads (.unary s op x k) := unary_formula_reads ih.1
    exact ⟨composite_reads rfl (.unary operand) formula, formula⟩
  | @binary s op l r k left right ihl ihr =>
    have formula : FormulaReads (.binary s op l r k) := binary_formula_reads left ihl.1 ihr.1
    exact ⟨composite_reads rfl (.binary left right) formula, formula⟩
  | tuple parts several ih =>
    have operand := tuple_reads parts several fun x among => (ih x among).2
    exact ⟨operand, simple_formula_reads rfl (.tuple parts several) operand⟩

theorem SameTree.isComposite {x y : Item} (same : SameTree x y) : x.isComposite = y.isComposite := by
  cases same <;> rfl

theorem formulas_congr {xs ys : List Item} (parts : List.Forall₂ SameTree xs ys)
    (alike : ∀ x ∈ xs, ∀ y, SameTree x y → x.formula = y.formula) : formulas xs = formulas ys := by
  induction parts with
  | nil => rfl
  | @cons x y xs ys first rest ih =>
    have head := alike x List.mem_cons_self y first
    have tail := ih fun z among => alike z (List.mem_cons_of_mem _ among)
    cases rest with
    | nil => simpa [formulas] using head
    | cons second rest => rw [formulas, formulas, head, tail]

theorem SameTree.formula_eq {x : Item} (plain : x.Plain) : ∀ y, SameTree x y → x.formula = y.formula := by
  have operand {x y : Item} (same : SameTree x y) (alike : x.formula = y.formula) :
      x.operandText = y.operandText := by
    rw [operandText, operandText, same.isComposite, alike]
  induction plain with
  | leaf single =>
    rintro y same
    cases single <;> cases same <;> rfl
  | unary _ ih =>
    rintro _ (_ | _ | same)
    rw [formula_unary, formula_unary, operand same (ih _ same)]
  | binary _ _ ihl ihr =>
    rintro _ (_ | _ | _ | ⟨left, right⟩)
    rw [formula_binary, formula_binary, operand left (ihl _ left), operand right (ihr _ right)]
  | tuple _ _ ih =>
    rintro _ (_ | _ | _ | _ | same)
    rw [formula, formula, formulas_congr same ih]

/-- Plain items read alike exactly where they are the same tree. -/
theorem format_unambiguous {x y : Item} (left : x.Plain) (right : y.Plain) :
    x.format = y.format ↔ SameTree x y := by
  constructor
  · intro same
    have texts : x.formula ++ [] = y.formula ++ [] := by simpa using String.ofList_injective same
    exact (left.reads.2 y right [] [] nofun nofun texts).1
  · intro same
    rw [format, format, same.formula_eq left y]

theorem format_unambiguous_nested :
    let x : Item := .tuple .plain [.binary 1 .mod (.unary 2 .negate (.placeholder 3 "a" .int) .int)
      (.tuple .plain []) .any, .int 10]
    let y : Item := .tuple .plain [.binary 9 .mod (.unary 8 .negate (.placeholder 7 "a" .bool) .int)
      (.tuple .plain []) .str, .int 10]
    x.Plain ∧ y.Plain ∧ x.format = y.format ∧ SameTree x y := by
  intro x y
  have name : PlainName "a" := ⟨by simp, by simp, by simp [punctuation]⟩
  have plain (r s t : Nat) (k l : Kind) : Plain (.tuple .plain [.binary r .mod (.unary s .negate
      (.placeholder t "a" k) .int) (.tuple .plain []) l, .int 10]) := by
    refine .tuple (fun z among => ?_) (by simp)
    rw [List.mem_pair] at among
    rcases among with rfl | rfl
    · exact .binary (.unary (.leaf (.placeholder name))) (.tuple nofun (by decide))
    · exact .leaf (.int (by decide))
  have same : x.format = y.format := rfl
  exact ⟨plain 1 2 3 .int .any, plain 9 8 7 .bool .str, same,
    (format_unambiguous (plain 1 2 3 .int .any) (plain 9 8 7 .bool .str)).1 same⟩

-- A name that is not plain can look like a formula.
example : (placeholder 1 "a-b" .int).format =
    (binary 2 .sub (placeholder 3 "a" .int) (placeholder 4 "b" .int) .int).format := by decide

end Item

end Deferred
