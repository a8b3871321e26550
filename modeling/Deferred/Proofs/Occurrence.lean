import Deferred.Layout

-- The nodes that occur in an item, among them its variables, in the order of the formula.

set_option autoImplicit false

namespace Deferred

namespace Item

-- Neither a node nor a tuple, so that nothing in it is ever entered.
def isLiteral : Item → Bool
  | tuple .. | placeholder .. | unary .. | binary .. => false
  | _ => true

@[elab_as_elim]
theorem entering {motive : Item → Prop}
    (literal : ∀ x, x.isLiteral → motive x)
    (tuple : ∀ f xs, (∀ x ∈ xs, motive x) → motive (.tuple f xs))
    (placeholder : ∀ s n k, motive (.placeholder s n k))
    (unary : ∀ s op x k, motive x → motive (.unary s op x k))
    (binary : ∀ s op l r k, motive l → motive r → motive (.binary s op l r k)) :
    ∀ x, motive x
  | .tuple f xs => tuple f xs fun x _ => entering literal tuple placeholder unary binary x
  | .placeholder s n k => placeholder s n k
  | .unary s op x k => unary s op x k (entering literal tuple placeholder unary binary x)
  | .binary s op l r k =>
    binary s op l r k (entering literal tuple placeholder unary binary l)
      (entering literal tuple placeholder unary binary r)
  | .none | .ellipsis | .bool _ | .int _ | .celsius _ | .float _ | .complex _ | .fraction _
  | .decimal _ | .str _ | .bytes _ | .list _ | .dict .. | .set _ | .meters .. | .clock .. =>
    literal _ rfl

mutual

def nodes : Item → List Item
  | .placeholder s n k => [.placeholder s n k]
  | .unary s op x k => .unary s op x k :: nodes x
  | .binary s op l r k => .binary s op l r k :: (nodes l ++ nodes r)
  | .tuple _ xs => nodesAll xs
  | _ => []

def nodesAll : List Item → List Item
  | [] => []
  | x :: xs => nodes x ++ nodesAll xs

end

theorem nodesAll_eq (xs : List Item) : nodesAll xs = xs.flatMap nodes := by
  induction xs with
  | nil => rfl
  | cons x xs ih => simp [nodesAll, ih]

@[simp] theorem nodes_literal {x : Item} (h : x.isLiteral) : x.nodes = [] := by
  cases x <;> simp_all [isLiteral, nodes]

@[simp] theorem nodes_tuple (f : TupleForm) (xs : List Item) :
    (tuple f xs).nodes = xs.flatMap nodes := by
  simp [nodes, nodesAll_eq]

@[simp] theorem nodes_placeholder (s : Nat) (n : String) (k : Kind) :
    (placeholder s n k).nodes = [placeholder s n k] := rfl

@[simp] theorem nodes_unary (s : Nat) (op : UnaryOperator) (x : Item) (k : Kind) :
    (unary s op x k).nodes = unary s op x k :: x.nodes := rfl

@[simp] theorem nodes_binary (s : Nat) (op : BinaryOperator) (l r : Item) (k : Kind) :
    (binary s op l r k).nodes = binary s op l r k :: (l.nodes ++ r.nodes) := rfl

def declaration? : Item → Option (String × Kind)
  | placeholder _ n k => some (n, k)
  | _ => Option.none

def declarations (x : Item) : List (String × Kind) := x.nodes.filterMap declaration?

@[simp] theorem declarations_literal {x : Item} (h : x.isLiteral) : x.declarations = [] := by
  simp [declarations, h]

@[simp] theorem declarations_tuple (f : TupleForm) (xs : List Item) :
    (tuple f xs).declarations = xs.flatMap declarations := by
  rw [declarations, nodes_tuple, List.filterMap_flatMap]
  rfl

@[simp] theorem declarations_placeholder (s : Nat) (n : String) (k : Kind) :
    (placeholder s n k).declarations = [(n, k)] := rfl

@[simp] theorem declarations_unary (s : Nat) (op : UnaryOperator) (x : Item) (k : Kind) :
    (unary s op x k).declarations = x.declarations :=
  List.filterMap_cons_none rfl

@[simp] theorem declarations_binary (s : Nat) (op : BinaryOperator) (l r : Item) (k : Kind) :
    (binary s op l r k).declarations = l.declarations ++ r.declarations := by
  rw [declarations, nodes_binary, List.filterMap_cons_none rfl, List.filterMap_append]
  rfl

theorem variablesAll_eq (xs : List Item) : variablesAll xs = xs.flatMap Item.variables := by
  induction xs with
  | nil => rfl
  | cons x xs ih => simp [variablesAll, ih]

def leaf? : Item → Option Variable
  | placeholder s n k => some ⟨s, n, k⟩
  | _ => Option.none

theorem leaf_eq_some {n : Item} {v : Variable} : n.leaf? = some v ↔ n = v.node := by
  constructor
  · intro found
    cases n <;> cases found
    rfl
  · rintro rfl
    rfl

theorem variables_eq (x : Item) : x.variables = x.nodes.filterMap leaf? := by
  induction x using entering with
  | literal x h => cases x <;> simp_all [isLiteral, Item.variables, nodes]
  | tuple f xs ih =>
    rw [Item.variables, variablesAll_eq, nodes_tuple, List.filterMap_flatMap]
    rw [List.flatMap_def, List.flatMap_def, List.map_congr_left ih]
  | placeholder s n k => rfl
  | unary s op x k ih =>
    rw [Item.variables, nodes_unary, List.filterMap_cons_none rfl]
    exact ih
  | binary s op l r k left right =>
    rw [Item.variables, nodes_binary, List.filterMap_cons_none rfl, List.filterMap_append, left, right]

theorem variables_declarations (x : Item) :
    (x.variables.map fun v => (v.name, v.kind)) = x.declarations := by
  rw [variables_eq, declarations, List.map_filterMap]
  congr 1
  funext n
  cases n <;> rfl

theorem marksAll_node {xs : List Item}
    (each : ∀ x ∈ xs, ∀ start, (x.marks start).map Mark.node = x.nodes) (start : Nat) :
    (marksAll start xs).map Mark.node = xs.flatMap nodes := by
  induction xs generalizing start with
  | nil => rfl
  | cons x xs ih =>
    have rest := ih fun y member => each y (List.mem_cons_of_mem _ member)
    simp [marksAll, each x List.mem_cons_self, rest]

theorem marks_node (x : Item) (start : Nat) : (x.marks start).map Mark.node = x.nodes := by
  induction x using entering generalizing start with
  | literal x h => cases x <;> simp_all [isLiteral, marks, nodes]
  | tuple f xs ih => simp [marks, marksAll_node ih]
  | placeholder s n k => rfl
  | unary s op x k ih => simp [marks, markAt, ih]
  | binary s op l r k left right => simp [marks, markAt, left, right]

end Item

namespace Layout

theorem placed_variables (l : Layout) (met : List Nat) (vs : List Variable) :
    ((l.placed met vs).map fun o => (o.name, o.kind)) = vs.map fun v => (v.name, v.kind) := by
  induction vs generalizing met with
  | nil => rfl
  | cons v vs ih => simp [placed, ih]

theorem occurrences_ofItem (x : Item) :
    ((ofItem x).occurrences.map fun o => (o.name, o.kind)) = x.declarations := by
  rw [Item.declarations, ← x.marks_node 0, occurrences, ofItem, List.map_filterMap,
    List.filterMap_map]
  congr 1
  funext m
  cases h : m.node <;> simp [Item.declaration?, h]

end Layout

def addVariable (found : List (String × Kind)) (v : String × Kind) : List (String × Kind) :=
  if found.any fun w => w.1 == v.1 then found else found ++ [v]

theorem freeVariables_eq (x : Item) : freeVariables x = x.declarations.foldl addVariable [] := by
  rw [← Layout.occurrences_ofItem, List.foldl_map]
  rfl

theorem mem_foldl_addVariable {vs found : List (String × Kind)} {v : String × Kind}
    (h : v ∈ vs.foldl addVariable found) : v ∈ found ∨ v ∈ vs := by
  induction vs generalizing found with
  | nil => exact .inl h
  | cons w vs ih =>
    rcases ih h with h | h
    · unfold addVariable at h
      split at h
      · exact .inl h
      · grind
    · exact .inr (List.mem_cons_of_mem _ h)

theorem name_mem_foldl_addVariable {vs found : List (String × Kind)} {n : String} :
    n ∈ (vs.foldl addVariable found).map Prod.fst ↔
      n ∈ found.map Prod.fst ∨ n ∈ vs.map Prod.fst := by
  induction vs generalizing found with
  | nil => simp
  | cons w vs ih =>
    rw [List.foldl_cons, ih]
    unfold addVariable
    split <;> grind

theorem mem_declarations_of_free {x : Item} {v : String × Kind} (h : v ∈ freeVariables x) :
    v ∈ x.declarations := by
  rw [freeVariables_eq] at h
  simpa using mem_foldl_addVariable h

theorem name_mem_freeVariables {x : Item} {n : String} :
    n ∈ (freeVariables x).map Prod.fst ↔ n ∈ x.declarations.map Prod.fst := by
  simp [freeVariables_eq, name_mem_foldl_addVariable]

end Deferred
