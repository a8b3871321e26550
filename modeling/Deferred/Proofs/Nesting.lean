import Deferred.Proofs.Placement
import Mathlib.Data.List.Basic

-- How the spans of a layout lie to one another. An occurrence of a node is a path that leads to it.

set_option autoImplicit false

namespace Deferred

namespace Span

def Before (s t : Span) : Prop := s.stop < t.start

def Contains (s t : Span) : Prop := s.start ≤ t.start ∧ t.stop ≤ s.stop

end Span

namespace Item

def parts : Item → List Item
  | unary _ _ x _ => [x]
  | binary _ _ l r _ => [l, r]
  | tuple _ xs => xs
  | _ => []

-- What a path leads to. Each step says which part is entered.
def at? (x : Item) : List Nat → Option Item
  | [] => some x
  | i :: path => x.parts[i]?.bind fun y => y.at? path

def widths : List Item → Nat
  | [] => 0
  | x :: xs => x.formula.length + 2 + widths xs

theorem widths_append (xs ys : List Item) : widths (xs ++ ys) = widths xs + widths ys := by
  induction xs with
  | nil => simp [widths]
  | cons x xs ih => simp [widths, ih, Nat.add_assoc]

-- Where a part begins in the formula, past the parenthesis that opens an operand.
def offset : Item → Nat → Nat
  | unary _ _ x _, _ => x.inset 1
  | binary _ _ l _ _, 0 => l.inset 0
  | binary _ _ l r _, _ => r.inset ((parenthesized l.isComposite l.formula).length + 1)
  | tuple _ xs, i => 1 + widths (xs.take i)
  | _, _ => 0

def startOf (x : Item) : List Nat → Nat
  | [] => 0
  | i :: path => x.offset i + (x.parts[i]?.elim 0 fun y => y.startOf path)

def spanOf (x : Item) (path : List Nat) : Span :=
  let start := x.startOf path
  ⟨start, start + ((x.at? path).elim 0 fun y => y.formula.length)⟩

theorem at?_append (x : Item) (p q : List Nat) :
    x.at? (p ++ q) = (x.at? p).bind fun y => y.at? q := by
  induction p generalizing x with
  | nil => rfl
  | cons i p ih =>
    simp only [List.cons_append, at?, Option.bind_assoc]
    exact congrArg _ (funext fun y => ih y)

theorem startOf_append {x y : Item} {p : List Nat} (h : x.at? p = some y) (q : List Nat) :
    x.startOf (p ++ q) = x.startOf p + y.startOf q := by
  induction p generalizing x with
  | nil =>
    cases h
    simp [startOf]
  | cons i p ih =>
    obtain ⟨z, entered, rest⟩ := Option.bind_eq_some_iff.1 h
    simp [startOf, entered, ih rest, Nat.add_assoc]

theorem inset_add (x : Item) (m n : Nat) : x.inset (m + n) = m + x.inset n := by
  unfold inset
  split <;> omega

def opening (x : Item) : List Char := if x.isComposite then ['('] else []

def closing (x : Item) : List Char := if x.isComposite then [')'] else []

theorem parenthesized_eq (x : Item) :
    parenthesized x.isComposite x.formula = x.opening ++ x.formula ++ x.closing := by
  unfold parenthesized opening closing
  split <;> simp

theorem length_opening (x : Item) : x.opening.length = x.inset 0 := by
  unfold opening inset
  split <;> rfl

theorem formulas_split {xs : List Item} {y : Item} {i : Nat} (entered : xs[i]? = some y) :
    ∃ before after, formulas xs = before ++ y.formula ++ after ∧
      before.length = widths (xs.take i) := by
  induction xs generalizing i with
  | nil => simp at entered
  | cons x xs ih =>
    cases i with
    | zero =>
      obtain rfl : x = y := by simpa using entered
      cases xs with
      | nil => exact ⟨[], [], by simp [formulas], rfl⟩
      | cons z zs => exact ⟨[], _, rfl, rfl⟩
    | succ i =>
      obtain ⟨before, after, split, length⟩ := ih (by simpa using entered)
      cases xs with
      | nil => simp at entered
      | cons z zs =>
        refine ⟨x.formula ++ [',', ' '] ++ before, after, by simp [formulas, split], ?_⟩
        simp [length, widths]
        omega

theorem operand_stands {x y : Item} {i : Nat} (node : x.isExpression) (entered : x.parts[i]? = some y) :
    ∃ before after, x.formula = before ++ (y.opening ++ y.formula ++ y.closing) ++ after ∧
      before.length + y.opening.length = x.offset i := by
  rw [← parenthesized_eq, length_opening]
  cases x with
  | unary s op x k =>
    obtain ⟨rfl, rfl⟩ : i = 0 ∧ x = y := by
      cases i <;> simp_all [parts]
    refine ⟨[op.glyph], [], by simp [formula], ?_⟩
    simp [offset, ← inset_add]
  | binary s op l r k =>
    rcases i with _ | _ | i
    · obtain rfl : l = y := by simpa [parts] using entered
      exact ⟨[], op.glyph :: parenthesized r.isComposite r.formula, by simp [formula], by simp [offset]⟩
    · obtain rfl : r = y := by simpa [parts] using entered
      refine ⟨parenthesized l.isComposite l.formula ++ [op.glyph], [], by simp [formula], ?_⟩
      simp [offset, ← inset_add]
    · simp [parts] at entered
  | placeholder s n k => simp [parts] at entered
  | _ => cases node

theorem part_stands {x y : Item} {i : Nat} (entered : x.parts[i]? = some y) :
    ∃ before after, x.formula = before ++ y.formula ++ after ∧ before.length = x.offset i := by
  have operand (node : x.isExpression) :
      ∃ before after, x.formula = before ++ y.formula ++ after ∧ before.length = x.offset i := by
    obtain ⟨before, after, split, length⟩ := operand_stands node entered
    exact ⟨before ++ y.opening, y.closing ++ after, by simp [split], by simp [length]⟩
  cases x with
  | unary | binary => exact operand rfl
  | tuple f xs =>
    have entered : xs[i]? = some y := entered
    obtain ⟨before, after, split, length⟩ := formulas_split entered
    exact ⟨'(' :: before, after ++ [')'], by simp [formula, split], by
      simp [offset, length, Nat.add_comm]⟩
  | _ => simp [parts] at entered

theorem widths_take_lt {xs : List Item} {y : Item} {i j : Nat} (entered : xs[i]? = some y) (lt : i < j) :
    widths (xs.take i) + y.formula.length + 2 ≤ widths (xs.take j) := by
  obtain ⟨before, rfl⟩ : ∃ m, j = i + 1 + m := ⟨j - (i + 1), by omega⟩
  rw [List.take_add, List.take_add_one, entered]
  simp [widths_append, widths]
  omega

theorem parts_apart {x y z : Item} {i j : Nat} (first : x.parts[i]? = some y)
    (second : x.parts[j]? = some z) (lt : i < j) : x.offset i + y.formula.length < x.offset j := by
  cases x with
  | unary s op x k =>
    obtain ⟨rfl, rfl⟩ : j = 0 ∧ x = z := by
      cases j <;> simp_all [parts]
    omega
  | binary s op l r k =>
    obtain ⟨rfl, rfl⟩ : i = 0 ∧ j = 1 := by
      have short := (List.getElem?_eq_some_iff.1 second).1
      simp only [parts, List.length_cons, List.length_nil] at short
      omega
    obtain rfl : l = y := by simpa [parts] using first
    have inner := (l.inset_bounds 0).2
    have outer := (r.inset_bounds ((parenthesized l.isComposite l.formula).length + 1)).1
    simp only [offset]
    omega
  | tuple f xs =>
    have first : xs[i]? = some y := first
    have later := widths_take_lt first lt
    simp only [offset]
    omega
  | _ => simp [parts] at first

theorem path_stands {x y : Item} {path : List Nat} (h : x.at? path = some y) :
    ∃ before after, x.formula = before ++ y.formula ++ after ∧ before.length = x.startOf path := by
  induction path generalizing x with
  | nil =>
    cases h
    exact ⟨[], [], by simp, rfl⟩
  | cons i path ih =>
    obtain ⟨z, entered, rest⟩ := Option.bind_eq_some_iff.1 h
    obtain ⟨before, after, outer, start⟩ := part_stands entered
    obtain ⟨inner, tail, split, length⟩ := ih rest
    refine ⟨before ++ inner, tail ++ after, by simp [outer, split], ?_⟩
    simp [startOf, entered, start, length]

theorem spanOf_eq {x y : Item} {path : List Nat} (h : x.at? path = some y) :
    x.spanOf path = ⟨x.startOf path, x.startOf path + y.formula.length⟩ := by
  simp [spanOf, h]

theorem path_within {x y : Item} {path : List Nat} (h : x.at? path = some y) :
    x.startOf path + y.formula.length ≤ x.formula.length := by
  obtain ⟨before, after, split, length⟩ := path_stands h
  simp [split, ← length]

theorem spanOf_contains {x y : Item} {p q : List Nat} (along : p <+: q) (h : x.at? q = some y) :
    (x.spanOf p).Contains (x.spanOf q) := by
  obtain ⟨r, rfl⟩ := along
  rw [at?_append] at h
  obtain ⟨z, outer, inner⟩ := Option.bind_eq_some_iff.1 h
  have whole : x.at? (p ++ r) = some y := by rw [at?_append, outer]; exact inner
  have within := path_within inner
  rw [spanOf_eq outer, spanOf_eq whole, startOf_append outer]
  constructor
  · exact Nat.le_add_right _ _
  · simp only
    omega

theorem spanOf_before {x y z : Item} {c p q : List Nat} {i j : Nat} (lt : i < j)
    (first : x.at? (c ++ i :: p) = some y) (second : x.at? (c ++ j :: q) = some z) :
    (x.spanOf (c ++ i :: p)).Before (x.spanOf (c ++ j :: q)) := by
  rw [spanOf_eq first, spanOf_eq second]
  rw [at?_append] at first second
  obtain ⟨w, common, left⟩ := Option.bind_eq_some_iff.1 first
  obtain ⟨_, again, right⟩ := Option.bind_eq_some_iff.1 second
  cases common.symm.trans again
  obtain ⟨u, leftPart, leftRest⟩ := Option.bind_eq_some_iff.1 left
  obtain ⟨v, rightPart, rightRest⟩ := Option.bind_eq_some_iff.1 right
  have apart := parts_apart leftPart rightPart lt
  have within := path_within leftRest
  simp only [Span.Before, startOf_append common, startOf, leftPart, rightPart, Option.elim_some]
  omega

theorem enclosing (front inner back : List Char) (a b : Char) :
    (front ++ a :: (inner ++ b :: back))[front.length]? = some a ∧
      (front ++ a :: (inner ++ b :: back))[front.length + 1 + inner.length]? = some b := by
  constructor
  · simp
  · have split : front ++ a :: (inner ++ b :: back) = (front ++ a :: inner) ++ b :: back := by simp
    have length : front.length + 1 + inner.length = (front ++ a :: inner).length := by
      simp
      omega
    rw [split, length, List.getElem?_append_right (Nat.le_refl _), Nat.sub_self]
    rfl

theorem operand_parentheses {x y z : Item} {p : List Nat} {i : Nat} (node : x.at? p = some y)
    (isNode : y.isExpression) (operand : x.at? (p ++ [i]) = some z) (composite : z.isComposite) :
    0 < (x.spanOf (p ++ [i])).start ∧
      x.formula[(x.spanOf (p ++ [i])).start - 1]? = some '(' ∧
      x.formula[(x.spanOf (p ++ [i])).stop]? = some ')' := by
  have entered : y.parts[i]? = some z := by simpa [at?_append, node, at?] using operand
  obtain ⟨before, after, outer, start⟩ := path_stands node
  obtain ⟨front, back, inner, length⟩ := operand_stands isNode entered
  have text : x.formula = (before ++ front) ++ '(' :: (z.formula ++ ')' :: (back ++ after)) := by
    simp [outer, inner, opening, closing, composite]
  have span : x.spanOf (p ++ [i]) =
      ⟨(before ++ front).length + 1, (before ++ front).length + 1 + z.formula.length⟩ := by
    rw [spanOf_eq operand, startOf_append node]
    simp [startOf, entered, ← start, ← length, opening, composite, Nat.add_assoc]
  rw [span, text]
  exact ⟨Nat.succ_pos _, enclosing (before ++ front) z.formula (back ++ after) '(' ')'⟩

mutual

-- The paths that lead to nodes, each before those that go on from it.
def places : Item → List (List Nat)
  | .placeholder .. => [[]]
  | .unary _ _ x _ => [] :: (places x).map (0 :: ·)
  | .binary _ _ l r _ => [] :: ((places l).map (0 :: ·) ++ (places r).map (1 :: ·))
  | .tuple _ xs => placesFrom 0 xs
  | _ => []

def placesFrom (i : Nat) : List Item → List (List Nat)
  | [] => []
  | x :: xs => (places x).map (i :: ·) ++ placesFrom (i + 1) xs

end

def mark? (x : Item) (start : Nat) (path : List Nat) : Option Mark :=
  (x.at? path).map fun y => y.markAt (start + x.startOf path)

theorem mark?_nil (x : Item) (start : Nat) : x.mark? start [] = some (x.markAt start) := rfl

theorem mark?_cons {x y : Item} {i : Nat} (entered : x.parts[i]? = some y) (start : Nat) :
    x.mark? start ∘ (i :: ·) = y.mark? (start + x.offset i) := by
  funext path
  simp [mark?, at?, startOf, entered, Nat.add_assoc]

theorem marksAll_places {f : TupleForm} {after : List Item}
    (each : ∀ x ∈ after, ∀ start, x.marks start = x.places.filterMap (x.mark? start))
    (before : List Item) (start : Nat) :
    marksAll (start + 1 + widths before) after =
      (placesFrom before.length after).filterMap ((tuple f (before ++ after)).mark? start) := by
  -- along the parts still to come; those in `before` say where they begin
  induction after generalizing before with
  | nil => rfl
  | cons x after ih =>
    rw [List.forall_mem_cons] at each
    have entered : (tuple f (before ++ x :: after)).parts[before.length]? = some x := by simp [parts]
    have place : start + 1 + widths before =
        start + (tuple f (before ++ x :: after)).offset before.length := by
      simp [offset, Nat.add_assoc]
    have rest := ih each.2 (before ++ [x])
    have moved : start + 1 + widths before + x.formula.length + 2 = start + 1 + widths (before ++ [x]) := by
      simp [widths_append, widths]
      omega
    rw [marksAll, placesFrom, List.filterMap_append, List.filterMap_map, mark?_cons entered, moved, rest,
      ← place, each.1]
    simp

theorem marks_places (x : Item) (start : Nat) : x.marks start = x.places.filterMap (x.mark? start) := by
  induction x using entering generalizing start with
  | literal x h => cases x <;> simp_all [isLiteral, marks, places]
  | tuple f xs ih => exact marksAll_places ih [] start
  | placeholder s n k => simp [marks, places, mark?, at?, startOf]
  | unary s op x k ih =>
    have place : x.inset (start + 1) = start + (unary s op x k).offset 0 := inset_add x start 1
    rw [marks, places, List.filterMap_cons_some (mark?_nil _ start),
      List.filterMap_map, mark?_cons rfl, ← place, ih]
  | binary s op l r k left right =>
    have first : l.inset start = start + (binary s op l r k).offset 0 := inset_add l start 0
    have second : r.inset (start + (parenthesized l.isComposite l.formula).length + 1) =
        start + (binary s op l r k).offset 1 := by
      rw [Nat.add_assoc, inset_add]
      rfl
    rw [marks, places, List.filterMap_cons_some (mark?_nil _ start),
      List.filterMap_append, List.filterMap_map, List.filterMap_map, mark?_cons rfl, mark?_cons rfl,
      ← first, ← second, left, right]
    rfl

theorem mem_placesFrom {xs : List Item} {i : Nat} {p : List Nat} :
    p ∈ placesFrom i xs ↔ ∃ j q, p = (i + j) :: q ∧ ∃ x, xs[j]? = some x ∧ q ∈ x.places := by
  induction xs generalizing i with
  | nil => simp [placesFrom]
  | cons x xs ih =>
    rw [placesFrom, List.mem_append, ih]
    constructor
    · rintro (here | ⟨j, q, rfl, y, later, inside⟩)
      · obtain ⟨q, inside, rfl⟩ := List.mem_map.1 here
        exact ⟨0, q, rfl, x, rfl, inside⟩
      · exact ⟨j + 1, q, by simp [Nat.add_assoc, Nat.add_comm 1], y, by simpa using later, inside⟩
    · rintro ⟨j, q, rfl, y, entered, inside⟩
      cases j with
      | zero =>
        obtain rfl : x = y := by simpa using entered
        exact .inl (List.mem_map_of_mem inside)
      | succ j =>
        exact .inr ⟨j, q, by simp [Nat.add_assoc, Nat.add_comm 1], y, by simpa using entered, inside⟩

theorem mem_places {x : Item} {p : List Nat} :
    p ∈ x.places ↔ ∃ n, x.at? p = some n ∧ n.isExpression := by
  induction x using entering generalizing p with
  | literal x h => cases x <;> cases p <;> simp_all [isLiteral, places, at?, parts, isExpression]
  | tuple f xs ih =>
    rw [places, mem_placesFrom]
    constructor
    · rintro ⟨j, q, rfl, y, entered, inside⟩
      obtain ⟨n, found, node⟩ := (ih y (List.mem_of_getElem? entered)).1 inside
      exact ⟨n, by simpa [at?, parts, entered] using found, node⟩
    · rintro ⟨n, found, node⟩
      cases p with
      | nil =>
        cases found
        cases node
      | cons j q =>
        obtain ⟨y, entered, rest⟩ := Option.bind_eq_some_iff.1 found
        have entered : xs[j]? = some y := entered
        exact ⟨j, q, by simp, y, entered, (ih y (List.mem_of_getElem? entered)).2 ⟨n, rest, node⟩⟩
  | placeholder s n k => cases p <;> simp [places, at?, parts, isExpression]
  | unary s op x k ih =>
    cases p with
    | nil => simp [places, at?, isExpression]
    | cons j q => cases j <;> simp [places, at?, parts, ih]
  | binary s op l r k left right =>
    cases p with
    | nil => simp [places, at?, isExpression]
    | cons j q => rcases j with _ | _ | j <;> simp [places, at?, parts, left, right]

theorem placesFrom_sorted {xs : List Item} (each : ∀ x ∈ xs, x.places.Pairwise (· < ·)) (i : Nat) :
    (placesFrom i xs).Pairwise (· < ·) := by
  induction xs generalizing i with
  | nil => exact .nil
  | cons x xs ih =>
    rw [List.forall_mem_cons] at each
    rw [placesFrom, List.pairwise_append, List.pairwise_map]
    refine ⟨each.1.imp List.Lex.cons, ih each.2 _, fun p first q later => ?_⟩
    obtain ⟨p, -, rfl⟩ := List.mem_map.1 first
    obtain ⟨j, q, rfl, -⟩ := mem_placesFrom.1 later
    exact .rel (by omega)

theorem places_sorted (x : Item) : x.places.Pairwise (· < ·) := by
  induction x using entering with
  | literal x h => cases x <;> simp_all [isLiteral, places]
  | tuple f xs ih => exact placesFrom_sorted ih 0
  | placeholder s n k => exact List.pairwise_singleton _ _
  | unary s op x k ih =>
    rw [places, List.pairwise_cons, List.pairwise_map]
    refine ⟨fun p later => ?_, ih.imp List.Lex.cons⟩
    obtain ⟨p, -, rfl⟩ := List.mem_map.1 later
    exact .nil
  | binary s op l r k left right =>
    have operands : (placesFrom 0 [l, r]).Pairwise (· < ·) := placesFrom_sorted (by simp [left, right]) 0
    have same : (places l).map (0 :: ·) ++ (places r).map (1 :: ·) = placesFrom 0 [l, r] := by
      simp [placesFrom]
    rw [places, same, List.pairwise_cons]
    refine ⟨fun p later => ?_, operands⟩
    obtain ⟨j, p, rfl, -⟩ := mem_placesFrom.1 later
    exact .nil

theorem path_cases {p q : List Nat} (lt : p < q) : (∃ i r, q = p ++ i :: r) ∨
    ∃ c i j p' q', i < j ∧ p = c ++ i :: p' ∧ q = c ++ j :: q' := by
  induction lt with
  | nil => exact .inl ⟨_, _, rfl⟩
  | rel lt => exact .inr ⟨[], _, _, _, _, lt, rfl, rfl⟩
  | cons _ ih =>
    rcases ih with ⟨i, r, rfl⟩ | ⟨c, i, j, p', q', lt, rfl, rfl⟩
    · exact .inl ⟨i, r, rfl⟩
    · exact .inr ⟨_ :: c, i, j, p', q', lt, rfl, rfl⟩

theorem part_smaller {x y : Item} {i : Nat} (entered : x.parts[i]? = some y) : sizeOf y < sizeOf x := by
  have among : y ∈ x.parts := List.mem_of_getElem? entered
  cases x with
  | unary s op x k =>
    obtain rfl : y = x := by simpa [parts] using among
    simp
    omega
  | binary s op l r k =>
    obtain rfl | rfl : y = l ∨ y = r := by simpa [parts] using among
    all_goals
      simp
      omega
  | tuple f xs =>
    have among : y ∈ xs := among
    have smaller := List.sizeOf_lt_of_mem among
    simp
    omega
  | _ => simp [parts] at among

theorem path_smaller {x y : Item} {p : List Nat} (found : x.at? p = some y) : sizeOf y ≤ sizeOf x := by
  induction p generalizing x with
  | nil =>
    cases found
    exact Nat.le_refl _
  | cons i p ih =>
    obtain ⟨z, entered, rest⟩ := Option.bind_eq_some_iff.1 found
    exact Nat.le_trans (ih rest) (Nat.le_of_lt (part_smaller entered))

theorem at?_ne_self (x : Item) (i : Nat) (p : List Nat) : x.at? (i :: p) ≠ some x := by
  intro found
  obtain ⟨y, entered, rest⟩ := Option.bind_eq_some_iff.1 found
  exact Nat.lt_irrefl _ (Nat.lt_of_le_of_lt (path_smaller rest) (part_smaller entered))

theorem spanOf_again {x n : Item} {p q : List Nat} (lt : p < q) (first : x.at? p = some n)
    (second : x.at? q = some n) : (x.spanOf p).Before (x.spanOf q) := by
  rcases path_cases lt with ⟨i, r, rfl⟩ | ⟨c, i, j, p', q', earlier, rfl, rfl⟩
  · -- a path that goes on from the node cannot lead to it again
    rw [at?_append, first] at second
    exact absurd second (n.at?_ne_self i r)
  · exact spanOf_before earlier first second

def Distinguished (x : Item) : Prop :=
  ∀ n ∈ x.nodes, ∀ m ∈ x.nodes, n.serial? = m.serial? → n = m

theorem mem_nodes {x n : Item} : n ∈ x.nodes ↔ n.isExpression ∧ ∃ p, x.at? p = some n := by
  rw [← x.marks_node 0, marks_places, List.map_filterMap, List.mem_filterMap]
  constructor
  · rintro ⟨p, place, found⟩
    obtain ⟨m, leads, node⟩ := mem_places.1 place
    obtain rfl : m = n := by simpa [mark?, leads, markAt] using found
    exact ⟨node, p, leads⟩
  · rintro ⟨node, p, leads⟩
    exact ⟨p, mem_places.2 ⟨n, leads, node⟩, by simp [mark?, leads, markAt]⟩

theorem serial_of_isExpression {n : Item} (node : n.isExpression) : ∃ s, n.serial? = some s := by
  cases n <;> first | exact ⟨_, rfl⟩ | cases node

def placesOf (x n : Item) : List (List Nat) :=
  x.places.filter fun p => (x.at? p).bind serial? == n.serial?

theorem mem_placesOf {x n : Item} (distinguished : x.Distinguished) (member : n ∈ x.nodes)
    {p : List Nat} : p ∈ x.placesOf n ↔ x.at? p = some n := by
  rw [placesOf, List.mem_filter, mem_places]
  constructor
  · rintro ⟨⟨m, leads, node⟩, same⟩
    have same : m.serial? = n.serial? := by simpa [leads] using same
    rw [leads, distinguished m (mem_nodes.2 ⟨node, p, leads⟩) n member same]
  · intro leads
    exact ⟨⟨n, leads, (mem_nodes.1 member).1⟩, by simp [leads]⟩

theorem spansOf_places (x : Item) {n : Item} (node : n.isExpression) :
    (Layout.ofItem x).spansOf n = (x.placesOf n).map x.spanOf := by
  obtain ⟨s, serial⟩ := serial_of_isExpression node
  simp only [Layout.spansOf, Layout.ofItem, placesOf, serial, marks_places, ← List.filterMap_eq_filter,
    List.filterMap_filterMap, List.map_filterMap]
  refine List.filterMap_congr fun p place => ?_
  obtain ⟨m, leads, -⟩ := mem_places.1 place
  simp [mark?, leads, markAt, spanOf, Option.guard]

end Item

namespace Layout

theorem excerpt_spanOf {x y : Item} {p : List Nat} (found : x.at? p = some y) :
    (ofItem x).excerpt (x.spanOf p) = y.format := by
  obtain ⟨before, after, split, length⟩ := Item.path_stands found
  rw [Item.spanOf_eq found, ← length]
  simp [excerpt, ofItem, Item.format, split, List.take_append]

theorem firstSpan_self (x : Item) : (ofItem x).firstSpan x = ⟨0, (ofItem x).text.length⟩ := by
  cases x <;>
    simp [firstSpan, spansOf, ofItem, Item.serial?, Item.marks, Item.markAt, Item.format]

variable {x n : Item}

theorem spansOf_paths (distinguished : x.Distinguished) (member : n ∈ x.nodes) :
    ∃ ps : List (List Nat), (∀ p, p ∈ ps ↔ x.at? p = some n) ∧ ps.Pairwise (· < ·) ∧
      (ofItem x).spansOf n = ps.map x.spanOf :=
  ⟨x.placesOf n, fun _ => Item.mem_placesOf distinguished member, x.places_sorted.filter _,
    x.spansOf_places (Item.mem_nodes.1 member).1⟩

theorem spansOf_before (distinguished : x.Distinguished) (member : n ∈ x.nodes) :
    ((ofItem x).spansOf n).Pairwise Span.Before := by
  obtain ⟨ps, leads, sorted, spans⟩ := spansOf_paths distinguished member
  rw [spans, List.pairwise_map]
  exact sorted.imp_of_mem fun first second earlier =>
    Item.spanOf_again earlier ((leads _).1 first) ((leads _).1 second)

theorem excerpt_spansOf (distinguished : x.Distinguished) (member : n ∈ x.nodes) :
    ∀ s ∈ (ofItem x).spansOf n, s.start ≤ s.stop ∧ (ofItem x).excerpt s = n.format := by
  obtain ⟨ps, leads, -, spans⟩ := spansOf_paths distinguished member
  intro s marked
  rw [spans] at marked
  obtain ⟨p, place, rfl⟩ := List.mem_map.1 marked
  exact ⟨Nat.le_add_right _ _, excerpt_spanOf ((leads p).1 place)⟩

/-- A layout marks each node once for each path that leads to it, and its spans are nested and apart just as
what they span is. -/
theorem ofItem_exact (distinguished : x.Distinguished) :
    let l := ofItem x
    l.text = x.format ∧
    (∀ n, n ∈ x.nodes ↔ n.isExpression ∧ ∃ p, x.at? p = some n) ∧
    (∀ n ∈ x.nodes,
      (∃ ps : List (List Nat), (∀ p, p ∈ ps ↔ x.at? p = some n) ∧ ps.Pairwise (· < ·) ∧
        l.spansOf n = ps.map x.spanOf) ∧
      (l.spansOf n).Pairwise Span.Before ∧
      ∀ s ∈ l.spansOf n, s.start ≤ s.stop ∧ l.excerpt s = n.format) ∧
    (l.firstSpan x = ⟨0, l.text.length⟩ ∧ x.spanOf [] = ⟨0, l.text.length⟩) ∧
    (∀ p q y, p <+: q → x.at? q = some y → (x.spanOf p).Contains (x.spanOf q)) ∧
    (∀ c i j p q y z, i < j → x.at? (c ++ i :: p) = some y → x.at? (c ++ j :: q) = some z →
      (x.spanOf (c ++ i :: p)).Before (x.spanOf (c ++ j :: q))) ∧
    (∀ p i y z, x.at? p = some y → y.isExpression → x.at? (p ++ [i]) = some z → z.isComposite →
      0 < (x.spanOf (p ++ [i])).start ∧
      l.text.toList[(x.spanOf (p ++ [i])).start - 1]? = some '(' ∧
      l.text.toList[(x.spanOf (p ++ [i])).stop]? = some ')') := by
  intro l
  refine ⟨rfl, fun n => Item.mem_nodes, fun n member => ?_, ?_, ?_, ?_, ?_⟩
  · exact ⟨spansOf_paths distinguished member, spansOf_before distinguished member,
      excerpt_spansOf distinguished member⟩
  · exact ⟨firstSpan_self x, by simp [Item.spanOf, Item.startOf, Item.at?, l, ofItem, Item.format]⟩
  · intro p q y along found
    exact Item.spanOf_contains along found
  · intro c i j p q y z earlier first second
    exact Item.spanOf_before earlier first second
  · intro p i y z node isNode operand composite
    simpa [l, ofItem, Item.format] using Item.operand_parentheses node isNode operand composite

theorem ofItem_exact_repeated :
    let sum : Item := .binary 3 .add (.placeholder 2 "n" .int) (.int 1) .int
    let x : Item := .tuple .pair [.unary 1 .negate sum .int, sum, .list [sum]]
    x.Distinguished ∧ sum ∈ x.nodes ∧
      (ofItem x).text = "(-(n+1), n+1, [<Add <Variable n:int> 1>])" ∧
      (ofItem x).spansOf sum = [⟨3, 6⟩, ⟨9, 12⟩] ∧
      (ofItem x).excerpt ⟨9, 12⟩ = sum.format ∧
      ((x.spanOf [0, 0]).Before (x.spanOf [1])) := by
  intro sum x
  have distinguished : x.Distinguished := by
    simp [Item.Distinguished, x, sum, Item.nodes, Item.nodesAll, Item.serial?]
  obtain ⟨-, nodes, marked, -, -, apart, -⟩ := ofItem_exact distinguished
  have member : sum ∈ x.nodes := (nodes sum).2 ⟨rfl, [1], rfl⟩
  have spans : (ofItem x).spansOf sum = [⟨3, 6⟩, ⟨9, 12⟩] := by decide
  obtain ⟨-, -, excerpts⟩ := marked sum member
  exact ⟨distinguished, member, by decide, spans, (excerpts _ (by simp [spans])).2,
    apart [] 0 1 [0] [] sum sum (by decide) rfl rfl⟩

end Layout

end Deferred
