import Deferred.Proofs.Occurrence

-- Where the nodes of an item land in its formula.

set_option autoImplicit false

namespace Deferred

namespace Mark

-- The mark spans the formula of its node, in characters that begin at `start`.
def LandsIn (m : Mark) (start : Nat) (cs : List Char) : Prop :=
  ∃ before after, cs = before ++ m.node.formula ++ after ∧
    m.span = ⟨start + before.length, start + before.length + m.node.formula.length⟩

namespace LandsIn

variable {m : Mark} {start : Nat} {cs : List Char}

theorem inside (opening closing : List Char) (h : m.LandsIn (start + opening.length) cs) :
    m.LandsIn start (opening ++ cs ++ closing) := by
  obtain ⟨before, after, rfl, span⟩ := h
  refine ⟨opening ++ before, after ++ closing, by simp, ?_⟩
  simp [span, Nat.add_assoc]

theorem parenthesized {x : Item} (h : m.LandsIn (x.inset start) cs) :
    m.LandsIn start (Item.parenthesized x.isComposite cs) := by
  unfold Item.inset at h
  unfold Item.parenthesized
  split
  next composite =>
    rw [if_pos composite] at h
    exact h.inside ['('] [')']
  next bare =>
    rw [if_neg bare] at h
    exact h

theorem bounds (h : m.LandsIn start cs) :
    start ≤ m.span.start ∧ m.span.stop ≤ start + cs.length := by
  obtain ⟨before, after, rfl, span⟩ := h
  simp [span]
  omega

theorem excerpt {text : List Char} (h : m.LandsIn 0 text) :
    (text.take m.span.stop).drop m.span.start = m.node.formula := by
  obtain ⟨before, after, rfl, span⟩ := h
  simp [span, List.take_append]

end LandsIn

end Mark

namespace Item

theorem marksAll_land {xs : List Item}
    (each : ∀ x ∈ xs, ∀ start, ∀ m ∈ x.marks start, m.LandsIn start x.formula) (start : Nat) :
    ∀ m ∈ marksAll start xs, m.LandsIn start (formulas xs) := by
  induction xs generalizing start with
  | nil => simp [marksAll]
  | cons x xs ih =>
    intro m member
    have first := each x List.mem_cons_self start m
    have others := ih fun y among => each y (List.mem_cons_of_mem _ among)
    cases xs with
    | nil => exact first (by simpa [marksAll] using member)
    | cons y ys =>
      rw [marksAll, List.mem_append] at member
      rcases member with member | member
      · exact (first member).inside [] _
      · have rest : m.LandsIn (start + (x.formula ++ [',', ' ']).length) (formulas (y :: ys)) := by
          simpa [Nat.add_assoc] using others _ m member
        simpa [formulas] using rest.inside _ []

theorem marks_land (x : Item) (start : Nat) : ∀ m ∈ x.marks start, m.LandsIn start x.formula := by
  induction x using entering generalizing start with
  | literal x h => cases x <;> simp_all [isLiteral, marks]
  | tuple f xs ih =>
    intro m member
    exact (marksAll_land ih (start + 1) m member).inside ['('] [')']
  | placeholder s n k =>
    intro m member
    obtain rfl := List.mem_singleton.1 member
    exact ⟨[], [], by simp [markAt], by simp [markAt]⟩
  | unary s op x k ih =>
    intro m member
    rcases List.mem_cons.1 member with rfl | member
    · exact ⟨[], [], by simp [markAt], by simp [markAt]⟩
    · have operand := (ih _ m member).parenthesized
      simpa [formula] using operand.inside [op.glyph] []
  | binary s op l r k left right =>
    intro m member
    rcases List.mem_cons.1 member with rfl | member
    · exact ⟨[], [], by simp [markAt], by simp [markAt]⟩
    · rcases List.mem_append.1 member with member | member
      · simpa [formula] using (left _ m member).parenthesized.inside [] _
      · let before := parenthesized l.isComposite l.formula ++ [op.glyph]
        have operand : m.LandsIn (start + before.length) (parenthesized r.isComposite r.formula) := by
          simpa [before, Nat.add_assoc] using (right _ m member).parenthesized
        simpa [formula, before] using operand.inside _ []

theorem inset_bounds (x : Item) (start : Nat) :
    start ≤ x.inset start ∧
      x.inset start + x.formula.length ≤ start + (parenthesized x.isComposite x.formula).length := by
  unfold inset parenthesized
  split
  · simp
    omega
  · simp

end Item

namespace Mark

def leaf? (m : Mark) : Option Variable := m.node.leaf?

def occurrence? (m : Mark) : Option Occurrence := m.leaf?.map fun v => ⟨v.name, v.kind, m.span⟩

def hasSerial (s : Nat) (m : Mark) : Bool := m.node.serial? == some s

end Mark

theorem Layout.occurrences_eq (l : Layout) : l.occurrences = l.marks.filterMap Mark.occurrence? := by
  unfold occurrences
  congr 1
  funext m
  unfold Mark.occurrence? Mark.leaf?
  cases m.node <;> rfl

def Occurrence.Before (o u : Occurrence) : Prop := o.span.stop < u.span.start

namespace Item

def occurrences (start : Nat) (x : Item) : List Occurrence := (x.marks start).filterMap Mark.occurrence?

-- No node has the serial of a variable but that variable itself, wherever it occurs.
def Identified (x : Item) : Prop :=
  ∀ v ∈ x.variables, ∀ n ∈ x.nodes, n.serial? = some v.serial → n = v.node

end Item

namespace Layout

theorem node_mem_nodes {x : Item} {m : Mark} (marked : m ∈ x.marks 0) : m.node ∈ x.nodes := by
  rw [← x.marks_node 0]
  exact List.mem_map_of_mem marked

theorem marks_variables (x : Item) : (x.marks 0).filterMap Mark.leaf? = x.variables := by
  rw [x.variables_eq, ← x.marks_node 0, List.filterMap_map]
  rfl

theorem spansOf_node (x : Item) (v : Variable) :
    (ofItem x).spansOf v.node = ((x.marks 0).filter (Mark.hasSerial v.serial)).map Mark.span := rfl

theorem count_met {x : Item} (identified : x.Identified) {v : Variable} (member : v ∈ x.variables)
    {ms : List Mark} (marked : ∀ m ∈ ms, m ∈ x.marks 0) :
    ((ms.filterMap Mark.leaf?).map Variable.serial).count v.serial =
      (ms.filter (Mark.hasSerial v.serial)).length := by
  induction ms with
  | nil => rfl
  | cons m ms ih =>
    have rest := ih fun n among => marked n (List.mem_cons_of_mem _ among)
    cases found : m.leaf? with
    | none =>
      have apart : ¬ m.hasSerial v.serial := fun same => by
        have self := identified v member m.node (node_mem_nodes (marked m List.mem_cons_self))
          (by simpa [Mark.hasSerial] using same)
        rw [Mark.leaf?, self] at found
        cases found
      rw [List.filterMap_cons_none found, List.filter_cons_of_neg apart, rest]
    | some w =>
      have node : m.node = w.node := Item.leaf_eq_some.1 found
      have serial : m.hasSerial v.serial = (w.serial == v.serial) := by
        simp [Mark.hasSerial, node, Variable.node, Item.serial?]
      rw [List.filterMap_cons_some found, List.map_cons, List.count_cons, List.filter_cons, serial, rest]
      by_cases same : w.serial = v.serial <;> simp [same]

theorem spansOf_met {x : Item} {before after : List Mark} {m : Mark} {v : Variable}
    (split : x.marks 0 = before ++ m :: after) (node : m.node = v.node) :
    ((ofItem x).spansOf v.node)[(before.filter (Mark.hasSerial v.serial)).length]? = some m.span := by
  have own : m.hasSerial v.serial := by simp [Mark.hasSerial, node, Variable.node, Item.serial?]
  rw [spansOf_node, split, List.filter_append, List.filter_cons_of_pos own]
  simp

theorem placed_marks {x : Item} (identified : x.Identified) {before after : List Mark}
    (split : x.marks 0 = before ++ after) {met : List Nat}
    (counted : ∀ s, met.count s = ((before.filterMap Mark.leaf?).map Variable.serial).count s) :
    (ofItem x).placed met (after.filterMap Mark.leaf?) = after.filterMap Mark.occurrence? := by
  -- along the marks still to come; `met` holds the serials of the variables marked before them
  induction after generalizing before met with
  | nil => rfl
  | cons m after ih =>
    have next : x.marks 0 = (before ++ [m]) ++ after := by simp [split]
    cases found : m.leaf? with
    | none =>
      rw [List.filterMap_cons_none found, List.filterMap_cons_none (by simp [Mark.occurrence?, found])]
      exact ih next fun s => by simp [counted, found]
    | some v =>
      have member : v ∈ x.variables := by
        rw [← marks_variables]
        exact List.mem_filterMap.2 ⟨m, by simp [split], found⟩
      have times : met.count v.serial = (before.filter (Mark.hasSerial v.serial)).length := by
        rw [counted, count_met identified member fun n among => by simp [split, among]]
      have span : (ofItem x).span v (met.count v.serial) = m.span := by
        rw [Layout.span, times, spansOf_met split (Item.leaf_eq_some.1 found)]
        rfl
      have occurrence : m.occurrence? = some ⟨v.name, v.kind, m.span⟩ := by
        simp [Mark.occurrence?, found]
      rw [List.filterMap_cons_some found, List.filterMap_cons_some occurrence, placed, span]
      refine congrArg _ (ih next fun s => ?_)
      simp [counted, found, List.count_cons, List.count_append]

theorem placed_occurrences {x : Item} (identified : x.Identified) :
    (ofItem x).placed [] x.variables = (ofItem x).occurrences := by
  rw [← marks_variables, occurrences_eq]
  have split : x.marks 0 = [] ++ x.marks 0 := rfl
  exact placed_marks identified split fun _ => rfl

end Layout

namespace Item

mutual

-- The same tree, with the serials of its nodes forgotten.
def unnumbered : Item → Item
  | .tuple f xs => .tuple f (unnumberedAll xs)
  | .placeholder _ n k => .placeholder 0 n k
  | .unary _ op x k => .unary 0 op (unnumbered x) k
  | .binary _ op l r k => .binary 0 op (unnumbered l) (unnumbered r) k
  | x => x

def unnumberedAll : List Item → List Item
  | [] => []
  | x :: xs => unnumbered x :: unnumberedAll xs

end

end Item

namespace Layout

theorem excerpt_occurrence {x : Item} {o : Occurrence} (member : o ∈ (ofItem x).occurrences) :
    (ofItem x).excerpt o.span = o.name := by
  rw [occurrences_eq] at member
  obtain ⟨m, marked, made⟩ := List.mem_filterMap.1 member
  obtain ⟨v, leaf, rfl⟩ := Option.map_eq_some_iff.1 made
  have node : m.node = v.node := Item.leaf_eq_some.1 leaf
  have lands : m.LandsIn 0 x.format.toList := by
    simpa [Item.format] using x.marks_land 0 m marked
  rw [excerpt, ofItem, lands.excerpt, node]
  simp [Variable.node, Item.formula]

end Layout

end Deferred
