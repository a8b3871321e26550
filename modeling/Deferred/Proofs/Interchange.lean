import Deferred.Evaluation
import Deferred.Proofs.Equality
import Deferred.Proofs.Findings
import Deferred.Proofs.Formation
import Deferred.Proofs.Placement
import Deferred.Proofs.Strictness

-- Equal expressions, put in each other's place. Equality goes by the value of literals, and operators by their class
-- as well.

set_option autoImplicit false

namespace Deferred

open Outcome

section

variable [Host]

namespace Item

/-- Trees of one shape, with `P` of the operands of any two operators that correspond. -/
inductive Paired (P : BinaryOperator → Item → Item → Item → Item → Prop) : Item → Item → Prop
  | literal {x y : Item} (left : x.isLiteral) (right : y.isLiteral) : Paired P x y
  | tuple {f g : TupleForm} {xs ys : List Item} (parts : List.Forall₂ (Paired P) xs ys) :
      Paired P (.tuple f xs) (.tuple g ys)
  | placeholder (s t : Nat) (m n : String) (k j : Kind) : Paired P (.placeholder s m k) (.placeholder t n j)
  | unary {s t : Nat} {op : UnaryOperator} {x y : Item} {k j : Kind} (operand : Paired P x y) :
      Paired P (.unary s op x k) (.unary t op y j)
  | binary {s t : Nat} {op : BinaryOperator} {l r m n : Item} {k j : Kind} (left : Paired P l m)
      (right : Paired P r n) (here : P op l r m n) : Paired P (.binary s op l r k) (.binary t op m n j)

def SameOperands (_ : BinaryOperator) (l r m n : Item) : Prop :=
  (l.isLiteral → l.SameClass m) ∧ (r.isLiteral → r.SameClass n)

-- What is put into a template is the same, literal for literal.
def SameFilling (look : Lookup) (op : BinaryOperator) (l r _m n : Item) : Prop :=
  op = .mod → (∃ t, evaluateWith look l = .ok t ∧ t.isTemplate) → r.unnumbered = n.unnumbered

theorem evaluateWith_unnumbered (look : Lookup) (x : Item) :
    evaluateWith look x.unnumbered = evaluateWith look x := by
  induction x using entering with
  | literal x h => cases x <;> first | rfl | cases h
  | tuple f xs ih =>
    have parts : (unnumberedAll xs).mapM (evaluateWith look) = xs.mapM (evaluateWith look) := by
      induction xs with
      | nil => rfl
      | cons x xs rest =>
        rw [unnumberedAll, List.mapM_cons, List.mapM_cons, ih x List.mem_cons_self,
          rest fun y member => ih y (List.mem_cons_of_mem _ member)]
    rw [unnumbered, evaluateWith_tuple, evaluateWith_tuple, parts]
  | placeholder s n k => rfl
  | unary s op x k ih => rw [unnumbered, evaluateWith, evaluateWith, ih]
  | binary s op l r k left right => rw [unnumbered, evaluateWith, evaluateWith, left, right]

variable {look : Lookup} {a b : Item}

theorem operand_alike (same : Same a b) (common : a.isLiteral → a.SameClass b)
    (node : a.isLiteral = false → Related Alike Failure.Akin (evaluateWith look a) (evaluateWith look b)) :
    Related Alike Failure.Akin (evaluateWith look a) (evaluateWith look b) := by
  cases literal : a.isLiteral with
  | true =>
    rw [evaluateWith_literal look literal, evaluateWith_literal look (same.literal literal)]
    exact same.alike literal (common literal)
  | false => exact node literal

theorem element_like (same : Same a b)
    (node : a.isLiteral = false → Related Alike Failure.Akin (evaluateWith look a) (evaluateWith look b)) :
    Related Like Failure.Akin (evaluateWith look a) (evaluateWith look b) := by
  cases literal : a.isLiteral with
  | true =>
    rw [evaluateWith_literal look literal, evaluateWith_literal look (same.literal literal)]
    exact same.like
  | false => exact (node literal).mono (fun _ _ => Alike.like) fun _ _ kin => kin

omit [Host] in
theorem not_literal {x : Item} (node : x.isExpression) : x.isLiteral = false := by
  cases x <;> first
    | rfl
    | cases node

theorem evaluates_alike (formed : a.Formed) (same : Same a b) (classes : a.Paired SameOperands b)
    (fillings : a.Paired (SameFilling look) b) (entered : a.isLiteral = false) :
    Related Alike Failure.Akin (evaluateWith look a) (evaluateWith look b) := by
  induction a using Item.entering generalizing b with
  | literal a literal =>
    rw [literal] at entered
    cases entered
  | tuple f xs ih =>
    obtain ⟨g, ys, rfl, parts⟩ := same.tuple
    cases classes with
    | literal left => cases left
    | tuple classes =>
    cases fillings with
    | literal left => cases left
    | tuple fillings =>
    have each : List.Forall₂ (fun x y => Related Like Failure.Akin (evaluateWith look x) (evaluateWith look y))
        xs ys := by
      have made := formed.part
      clear same entered formed
      induction parts with
      | nil => exact .nil
      | cons head tail rest =>
        cases classes with
        | cons first classes =>
        cases fillings with
        | cons second fillings =>
        have node := ih _ List.mem_cons_self (made _ List.mem_cons_self) head first second
        refine .cons (element_like head node) ?_
        exact rest (fun x member => ih x (List.mem_cons_of_mem _ member)) classes fillings
          fun x member => made x (List.mem_cons_of_mem _ member)
    rw [evaluateWith_tuple, evaluateWith_tuple]
    exact (Related.mapM each).bind fun _ _ parts => .tuple parts
  | placeholder s n k =>
    obtain ⟨t, rfl⟩ := same.placeholder
    exact .of_eq rfl .same fun _ => .inl rfl
  | unary s op x k ih =>
    obtain ⟨t, y, j, rfl, operand⟩ := same.unary
    cases classes with
    | literal left => cases left
    | unary classes =>
    cases fillings with
    | literal left => cases left
    | unary fillings =>
    have node := not_literal formed.operand_expression
    rw [evaluateWith, evaluateWith]
    exact (ih formed.operand operand classes fillings node).bind fun _ _ => applyUnary_alike op
  | binary s op l r k first second =>
    obtain ⟨t, m, n, j, rfl, left, right⟩ := same.binary
    cases classes with
    | literal left => cases left
    | binary classes classes' common =>
    cases fillings with
    | literal left => cases left
    | binary fillings fillings' filling =>
    have before := operand_alike left common.1 (first formed.operands.1 left classes fillings)
    have after := operand_alike right common.2 (second formed.operands.2 right classes' fillings')
    rw [evaluateWith, evaluateWith]
    refine before.bindWith fun v u value _ alike => ?_
    refine after.bindWith fun w z value' other alike' => ?_
    refine applyBinary_alike op alike alike' fun mod template => ?_
    -- the same tree on the right, and so the very same value
    have tree := filling mod ⟨v, value, template⟩
    rw [← evaluateWith_unnumbered, tree, evaluateWith_unnumbered, other] at value'
    exact (Except.ok.inj value').symm

omit [Host] in
theorem operand_family (same : Same a b) (common : a.isLiteral → a.SameClass b)
    (node : a.isExpression → a.valueKind = b.valueKind) : a.valueKind.family = b.valueKind.family := by
  cases expression : a.isExpression with
  | true => rw [node expression]
  | false =>
    rcases literal_or_tuple expression with literal | ⟨f, xs, rfl⟩
    · have plain {x : Item} (literal : x.isLiteral) : x.valueKind = x.kind := by
        cases x <;> first
          | rfl
          | cases literal
      rw [plain literal, plain (same.literal literal)]
      exact (common literal).family
    · obtain ⟨g, ys, rfl, -⟩ := same.tuple
      cases f <;> cases g <;> rfl

theorem valueKind_eq (left : a.Formed) (right : b.Formed) (same : Same a b)
    (classes : a.Paired SameOperands b) (node : a.isExpression) : a.valueKind = b.valueKind := by
  induction a using Item.entering generalizing b with
  | literal a literal =>
    rw [value_of_literal literal] at node
    cases node
  | tuple f xs ih => cases node
  | placeholder s n k =>
    obtain ⟨t, rfl⟩ := same.placeholder
    rfl
  | unary s op x k ih =>
    obtain ⟨t, y, j, rfl, operand⟩ := same.unary
    cases classes with
    | literal left => cases left
    | unary classes =>
    have kind := ih left.operand right.operand operand classes left.operand_expression
    have result := left.unary_kind
    rw [kind, right.unary_kind] at result
    exact (Except.ok.inj result).symm
  | binary s op l r k first second =>
    obtain ⟨t, m, n, j, rfl, before, after⟩ := same.binary
    cases classes with
    | literal left => cases left
    | binary classes classes' common =>
    have kind := operand_family before common.1 (first left.operands.1 right.operands.1 before classes)
    have kind' := operand_family after common.2 (second left.operands.2 right.operands.2 after classes')
    have results := Algebra.binaryResult_of_family op kind kind'
    rw [left.binary_kind, right.binary_kind] at results
    exact results

omit [Host] in
theorem declarations_eq_of_same (same : Same a b) : a.declarations = b.declarations := by
  induction a using Item.entering generalizing b with
  | literal a literal =>
    rw [declarations_literal literal, declarations_literal (same.literal literal)]
  | tuple f xs ih =>
    obtain ⟨g, ys, rfl, parts⟩ := same.tuple
    rw [declarations_tuple, declarations_tuple]
    clear same
    induction parts with
    | nil => rfl
    | cons head tail rest =>
      rw [List.flatMap_cons, List.flatMap_cons, ih _ List.mem_cons_self head,
        rest fun x member => ih x (List.mem_cons_of_mem _ member)]
  | placeholder s n k =>
    obtain ⟨t, rfl⟩ := same.placeholder
    rfl
  | unary s op x k ih =>
    obtain ⟨t, y, j, rfl, operand⟩ := same.unary
    rw [declarations_unary, declarations_unary, ih operand]
  | binary s op l r k first second =>
    obtain ⟨t, m, n, j, rfl, before, after⟩ := same.binary
    rw [declarations_binary, declarations_binary, first before, second after]

end Item

namespace Check

structure Parallel (p q : Progress) : Prop where
  limit : p.report.limit = q.report.limit
  count : p.report.issues.length = q.report.issues.length
  met : ∀ n, (p.unbound? n).isSome = (q.unbound? n).isSome
  declared : ∀ n, (p.declared.lookup n).map Prod.fst = (q.declared.lookup n).map Prod.fst

abbrev InStep (s t : Step) : Prop := Related Parallel (fun e d => e.2 = d.2) s t

variable {p q : Progress} {o u : Occurrence}

omit [Host] in
theorem issue_parallel (h : Parallel p q) (i j : Issue) : InStep (p.issue i) (q.issue j) := by
  have count : (p.report.add i).issues.length = (q.report.add j).issues.length := by
    simp [Report.add, h.count]
  have full : (p.report.add i).isFull = (q.report.add j).isFull := by
    unfold Report.isFull
    rw [count, show (p.report.add i).limit = (q.report.add j).limit from h.limit]
  unfold Progress.issue
  dsimp only
  rw [full]
  split
  · rfl
  · exact ⟨h.limit, count, h.met, h.declared⟩

omit [Host] in
theorem declaration_parallel (h : Parallel p q) (same : o.variable = u.variable) (text text' : String) :
    InStep (declaration text o p) (declaration text' u q) := by
  obtain ⟨name, kind⟩ : o.name = u.name ∧ o.kind = u.kind := by simpa [Occurrence.variable] using same
  have first := h.declared u.name
  unfold declaration
  rw [name, kind]
  cases found : p.declared.lookup u.name with
  | some entry =>
    rw [found] at first
    obtain ⟨other, found', kinds⟩ := Option.map_eq_some_iff.1 first.symm
    rw [found']
    obtain ⟨k, s⟩ := entry
    obtain ⟨l, t⟩ := other
    obtain rfl : l = k := kinds
    dsimp only
    split
    · exact h
    · exact issue_parallel h _ _
  | none =>
    rw [found] at first
    rw [Option.map_eq_none_iff.1 first.symm]
    refine ⟨h.limit, h.count, h.met, fun n => ?_⟩
    by_cases same : n = u.name
    · subst same
      simp [List.lookup_append, found, Option.map_eq_none_iff.1 first.symm]
    · rw [lookup_append_singleton _ _ same, lookup_append_singleton _ _ same, h.declared]

omit [Host] in
theorem enter_parallel (h : Parallel p q) (name : o.name = u.name) (text text' : String) :
    InStep (enter text o p) (enter text' u q) := by
  have met := h.met u.name
  unfold enter
  rw [name]
  cases found : p.unbound? u.name with
  | some index =>
    rw [found] at met
    obtain ⟨index', found'⟩ := Option.isSome_iff_exists.1 met.symm
    rw [found']
    exact h
  | none =>
    have missing : q.unbound? u.name = none := by
      rw [found] at met
      simpa using met.symm
    rw [missing]
    have kept : Parallel (p.keep u.name) (q.keep u.name) := by
      refine ⟨h.limit, h.count, fun n => ?_, h.declared⟩
      rw [keep_unbound?, keep_unbound?, Option.isSome_or, Option.isSome_or, h.met]
      split <;> rfl
    exact issue_parallel kept _ _

omit [Host] in
theorem point_parallel (h : Parallel p q) : Parallel (point o p) (point u q) := by
  refine ⟨?_, ?_, fun n => ?_, fun n => ?_⟩
  · unfold point
    split <;> split <;> exact h.limit
  · rw [length_point, length_point, h.count]
  · unfold point
    split <;> split <;> exact h.met n
  · unfold point
    split <;> split <;> exact h.declared n

theorem comparison_parallel (h : Parallel p q) (same : o.variable = u.variable) (signature : Signature)
    (text text' : String) :
    InStep (comparison signature text o p) (comparison signature text' u q) := by
  obtain ⟨name, kind⟩ : o.name = u.name ∧ o.kind = u.kind := by simpa [Occurrence.variable] using same
  unfold comparison
  rw [name, kind]
  split
  · exact (enter_parallel h name text text').map fun _ _ => point_parallel
  · split
    · exact h
    · rfl
  · split
    · exact h
    · exact issue_parallel h _ _

theorem walk_parallel {a b : Item} (same : a.declarations = b.declarations) (signature : Signature)
    (r : Report) : InStep (walk a signature r) (walk b signature r) := by
  have alike : (visits a).map Occurrence.variable = (visits b).map Occurrence.variable := by
    rw [declarations_eq, declarations_eq, same]
  -- step by step, along two lists of occurrences that differ in their spans alone
  have run (os us : List Occurrence) (alike : os.map Occurrence.variable = us.map Occurrence.variable)
      (p q : Progress) (h : Parallel p q) (text text' : String) :
      InStep (os.foldlM (occurrence signature text) p) (us.foldlM (occurrence signature text') q) := by
    induction os generalizing us p q with
    | nil =>
      obtain rfl := List.map_eq_nil_iff.1 alike.symm
      exact h
    | cons o os ih =>
      obtain ⟨u, us, rfl, first, rest⟩ := List.map_eq_cons_iff.1 alike.symm
      rw [List.foldlM_cons, List.foldlM_cons]
      refine Related.bind ?_ fun p q h => ih us rest.symm p q h
      refine (declaration_parallel h first.symm text text').bind fun p q h => ?_
      exact comparison_parallel h first.symm signature text text'
  exact run _ _ alike _ _ ⟨rfl, rfl, fun _ => rfl, fun _ => rfl⟩ _ _

end Check

theorem requirePlausible_akin {a b : Item} (same : a.declarations = b.declarations)
    (signature : Signature) (r : Report) :
    Related Eq Failure.Akin (requirePlausible a signature r).result
      (requirePlausible b signature r).result := by
  by_cases fits : Plausible signature a.declarations
  · rw [requirePlausible_accepts r fits, requirePlausible_accepts r (same ▸ fits)]
    rfl
  · have steps := Check.walk_parallel same signature r
    by_cases stopped : Check.Unsupported (Check.walk a signature r)
    · obtain ⟨s, failed⟩ := stopped
      obtain ⟨⟨t, halt⟩, failed', alike⟩ := steps.failure failed
      obtain rfl : Halt.unsupported = halt := alike
      rw [requirePlausible_unsupported ⟨s, failed⟩, requirePlausible_unsupported ⟨t, failed'⟩]
      exact .inl rfl
    · have going : ¬ Check.Unsupported (Check.walk b signature r) := by
        rintro ⟨t, failed'⟩
        obtain ⟨⟨s, halt⟩, failed, alike⟩ := steps.flip.failure failed'
        obtain rfl : halt = Halt.unsupported := alike
        exact stopped ⟨s, failed⟩
      have grown := (Check.walk_refuses r fits).resolve_right stopped
      have grown' := (Check.walk_refuses r (same ▸ fits)).resolve_right going
      obtain ⟨why, refused⟩ := requirePlausible_rejected stopped grown
      obtain ⟨why', refused'⟩ := requirePlausible_rejected going grown'
      rw [refused, refused']
      exact .inr ⟨⟨why, rfl⟩, why', rfl⟩

theorem vet_akin {a b : Item} (same : a.declarations = b.declarations) (written : a.isWritable = b.isWritable)
    (signature : Signature) (r : Report) :
    Related Eq Failure.Akin (vet a signature r).result (vet b signature r).result := by
  unfold vet
  rw [written]
  split
  · exact requirePlausible_akin same signature r
  · exact .inl rfl

theorem Environment.accept_akin {a b : Item} (same : a.declarations = b.declarations) (e : Environment)
    (written : e.isStatic → a.isWritable = b.isWritable) :
    Related Eq Failure.Akin (e.accept a) (e.accept b) := by
  cases e with
  | dynamic d => rfl
  | static s => exact vet_akin same (written rfl) _ _

/-- Equal expressions are interchangeable, as long as no operator tells their literals apart: where its operands
are literals, they are of one class, and where it fills a template, it is filled with the same. Both promise
values of one kind, and both come to values that are equal in every part, or fail in the same way. An
environment that checks expressions must be able to write out both, or neither. -/
theorem equal_interchangeable {a b : Item} (left : a.Formed) (right : b.Formed) (node : a.isExpression)
    (equal : a.equals b = .ok true) (classes : a.Paired Item.SameOperands b) :
    a.valueKind = b.valueKind ∧
      ∀ e : Environment, a.Paired (Item.SameFilling e.lookup) b →
        (e.isStatic → a.isWritable = b.isWritable) →
        Related (fun v w => v.Like w ∧ (v.Settled → v.equals w = .ok true)) Failure.Akin
          (evaluate a e) (evaluate b e) := by
  have same := Item.Same.of_equals equal
  refine ⟨Item.valueKind_eq left right same classes node, fun e fillings written => ?_⟩
  have accepted := e.accept_akin (Item.declarations_eq_of_same same) written
  refine accepted.bind fun _ _ _ => ?_
  have values := Item.evaluates_alike left same classes fillings (Item.not_literal node)
  exact values.mono (fun _ _ alike => ⟨alike.like, fun settled => settled.equals alike.like⟩)
    fun _ _ kin => kin

end

theorem equal_interchangeable_decimals :
    let x : Item := .placeholder 1 "x" .decimal
    let a : Item := .binary 2 .mul x (.decimal (.finite false 10 (-1))) .decimal
    let b : Item := .binary 3 .mul x (.decimal (.finite false 100 (-2))) .decimal
    let e : Environment := .static ⟨[⟨"x", .decimal (.finite false 5 0), some .decimal⟩]⟩
    a.equals b = .ok true ∧ a.valueKind = b.valueKind ∧
      evaluate a e = .ok (.decimal (.finite false 50 (-1))) ∧
      evaluate b e = .ok (.decimal (.finite false 500 (-2))) ∧
      (Item.decimal (.finite false 50 (-1))).Like (.decimal (.finite false 500 (-2))) := by
  intro x a b e
  have left : a.Formed := .binary (.placeholder rfl) (.literal rfl) rfl
  have right : b.Formed := .binary (.placeholder rfl) (.literal rfl) rfl
  have equal : a.equals b = .ok true := rfl
  have classes : a.Paired Item.SameOperands b :=
    .binary (.placeholder ..) (.literal rfl rfl)
      ⟨fun entered => absurd entered (by decide), fun _ => ⟨rfl, rfl, fun measure => absurd measure (by decide)⟩⟩
  have fillings : a.Paired (Item.SameFilling e.lookup) b :=
    .binary (.placeholder ..) (.literal rfl rfl) fun percent => absurd percent (by decide)
  obtain ⟨kinds, evaluated⟩ := equal_interchangeable left right rfl equal classes
  have first : evaluate a e = .ok (.decimal (.finite false 50 (-1))) := rfl
  have second : evaluate b e = .ok (.decimal (.finite false 500 (-2))) := rfl
  have values := evaluated e fillings fun _ => rfl
  rw [first, second] at values
  exact ⟨equal, kinds, first, second, values.1⟩

theorem Item.int_equals_decimal {m e : Int} {c : Nat} (value : Extended.ofDecimal (.finite false c e) = .finite m 1) :
    (Item.int m).equals (.decimal (.finite false c e)) = .ok true := by
  simp [Item.equals, Item.equalsLeaf, Item.point?, Item.int?, Item.isSignaling, value, Extended.equal]

-- An integer with too many digits is equal to a decimal that is easily written, but no check can begin.
theorem equal_unwritten {m e : Int} {c : Nat} (long : Item.hasText m = false)
    (value : Extended.ofDecimal (.finite false c e) = .finite m 1) :
    let x : Item := .placeholder 1 "x" .tuple
    let a : Item := .binary 2 .add x (.tuple .plain [.int m]) .any
    let d : Item := .decimal (.finite false c e)
    let b : Item := .binary 3 .add x (.tuple .plain [d]) .any
    let s : Environment := .static ⟨[⟨"x", .tuple .plain [], some .tuple⟩]⟩
    a.Formed ∧ b.Formed ∧ a.equals b = .ok true ∧
      evaluate a s = .error .invalid ∧ evaluate b s = .ok (.tuple .plain [d]) := by
  intro x a d b s
  have part {y : Item} (literal : y.isLiteral) : (Item.tuple .plain [y]).Formed :=
    .tuple (by simpa using .literal literal)
  have unwritten : a.isWritable = false := by simp [a, x, Item.isWritable, Item.areWritable, long]
  have parts : (Item.tuple .plain [.int m]).equals (.tuple .plain [d]) = .ok true := by
    rw [Item.equals, Item.equalsAll, Item.equalsAll, Item.int_equals_decimal value]
    rfl
  refine ⟨.binary (.placeholder rfl) (part rfl) rfl, .binary (.placeholder rfl) (part rfl) rfl, ?_, ?_, rfl⟩
  · simp only [a, b]
    rw [Item.equals, parts]
    rfl
  · rw [evaluate, Environment.accept, vet, unwritten]
    rfl

/-- Equal expressions come apart over literals of different classes, over the text of what fills a template and
over the sign of a decimal zero, and over a tuple that cannot be written out; and a value that is no number is
not even equal to itself. -/
theorem equal_apart :
    let n : Item := .placeholder 1 "n" .int
    let s : Item := .placeholder 2 "s" .str
    let d : Item := .placeholder 3 "d" .decimal
    let x : Item := .placeholder 4 "x" .float
    let e : Environment := .dynamic
      ⟨[("n", .int 7), ("s", .str "%s"), ("d", .decimal (.infinite false)), ("x", .float (.finite false 0 0))]⟩
    let halved : Item := .binary 0 .div n (.int 2) .int
    let halvedExactly : Item := .binary 0 .div n (.fraction 2) .fraction
    let filled : Item := .binary 0 .mod s (.float (.finite false 0 0)) .str
    let filledBelow : Item := .binary 0 .mod s (.float (.finite true 0 0)) .str
    let divided : Item := .binary 0 .div d (.decimal (.finite false 0 0)) .decimal
    let dividedBelow : Item := .binary 0 .div d (.decimal (.finite true 0 0)) .decimal
    let undefined : Item := .binary 0 .mul x (.float (.infinite false)) .float
    let t : Item := .placeholder 1 "x" .tuple
    let long : Item := .binary 2 .add t (.tuple .plain [.int (10 ^ 5000 : Nat)]) .any
    let short : Item := .binary 3 .add t (.tuple .plain [.decimal (.finite false 1 5000)]) .any
    let checked : Environment := .static ⟨[⟨"x", .tuple .plain [], some .tuple⟩]⟩
    (∀ a ∈ [halved, halvedExactly, filled, filledBelow, divided, dividedBelow, undefined], a.Formed) ∧
    (halved.equals halvedExactly = .ok true ∧ halved.valueKind ≠ halvedExactly.valueKind ∧
      evaluate halved e = .ok (.int 3) ∧ evaluate halvedExactly e = .ok (.fraction (7 / 2)) ∧
      (Item.int 3).equals (.fraction (7 / 2)) = .ok false) ∧
    (filled.equals filledBelow = .ok true ∧
      evaluate filled e = .ok (.str "0.0") ∧ evaluate filledBelow e = .ok (.str "-0.0")) ∧
    (divided.equals dividedBelow = .ok true ∧ evaluate divided e = .ok (.decimal (.infinite false)) ∧
      evaluate dividedBelow e = .ok (.decimal (.infinite true))) ∧
    (undefined.equals undefined = .ok true ∧ evaluate undefined e = .ok (.float (.nan 0)) ∧
      (Item.float (.nan 0)).equals (.float (.nan 0)) = .ok false) ∧
    (long.Formed ∧ short.Formed ∧ long.equals short = .ok true ∧ evaluate long checked = .error .invalid ∧
      evaluate short checked = .ok (.tuple .plain [.decimal (.finite false 1 5000)])) := by
  refine ⟨?_, ⟨rfl, nofun, rfl, rfl, by with_unfolding_all rfl⟩, ⟨rfl, rfl, rfl⟩, ⟨rfl, rfl, rfl⟩,
    ⟨rfl, rfl, rfl⟩, equal_unwritten (by decide +kernel) (by decide +kernel)⟩
  simp only [List.forall_mem_cons, List.not_mem_nil, false_imp_iff, implies_true, and_true]
  refine ⟨?_, ?_, ?_, ?_, ?_, ?_, ?_⟩ <;> exact .binary (.placeholder rfl) (.literal rfl) rfl

end Deferred
