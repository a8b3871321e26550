import Deferred.Proofs.History
import Deferred.Proofs.Interchange
import Mathlib.Tactic.Tauto

-- Equality of nodes is an equivalence, and what equal nodes have in common.

set_option autoImplicit false

namespace Deferred

open Outcome

namespace Item

theorem equals_node {x y : Item} (node : x.isExpression) : x.equals y = .ok true ↔ Same x y := by
  have apart : identical x y = false := by
    cases x <;> first
      | rfl
      | cases node
  rw [same_iff, apart]
  simp

theorem hash_number {x : Item} {p : Numeric} (number : x.numeric? = some p) :
    x.hash? = if x.isSignaling then Option.none else some (hash p.point) := by
  cases x <;> cases number <;> rfl

theorem hash_atom {x y : Item} (atom : x.isAtom) (same : Same x y) : x.hash? = y.hash? := by
  cases number : x.numeric? with
  | none =>
    have heads := (same_atom atom).1 same
    cases x <;> first
      | cases atom; done
      | cases number; done
      | cases y <;> first
        | (cases heads; rfl)
        | cases heads
  | some p =>
    cases number' : y.numeric? with
    | none => exact absurd same (same_number_other number number').1
    | some q =>
      rcases same.cases with rfl | equal
      · rfl
      · obtain ⟨value, regular, regular'⟩ := (equals_numbers number number').1 equal
        rw [hash_number number, hash_number number', silent_of_regular number regular,
          silent_of_regular number' regular', value]

theorem hashAll_eq {xs ys : List Item} (each : ∀ x ∈ xs, ∀ y, Same x y → x.hash? = y.hash?)
    (parts : List.Forall₂ Same xs ys) : hashAll? xs = hashAll? ys := by
  induction parts with
  | nil => rfl
  | cons head tail ih =>
    rw [List.forall_mem_cons] at each
    rw [hashAll?, hashAll?, each.1 _ head, ih each.2]

theorem hash_eq_of_same {x y : Item} (same : Same x y) : x.hash? = y.hash? := by
  induction x using comparing generalizing y with
  | step x ih _ =>
  cases x with
  | tuple f xs =>
    obtain ⟨g, ys, rfl, parts⟩ := same.tuple
    exact hashAll_eq (fun x among y => ih x among) parts
  | list | dict | set =>
    cases y <;> first
      | rfl
      | cases same
  | unary s op x k =>
    obtain ⟨t, z, j, rfl, operand⟩ := same.unary
    rw [hash?, hash?, ih x List.mem_cons_self operand]
  | binary s op l r k =>
    obtain ⟨t, m, n, j, rfl, left, right⟩ := same.binary
    rw [hash?, hash?, ih l List.mem_cons_self left, ih r (List.mem_cons_of_mem _ List.mem_cons_self) right]
  | _ => exact hash_atom rfl same

def Answered (r : Except Failure Bool) : Prop := ∃ same, r = .ok same

theorem Answered.both {r s : Except Failure Bool} (first : Answered r) (second : Answered s) :
    Answered (both r s) := by
  obtain ⟨same, rfl⟩ := first
  cases same with
  | false => exact ⟨false, rfl⟩
  | true => exact second

theorem Answered.against {x y : Item} (answered : Answered (x.equals y)) : Answered (x.against y) := by
  unfold Item.against unlessIdentical
  split
  · exact ⟨true, rfl⟩
  · exact answered

mutual

-- No signaling number is compared in it. None is ever a key.
def isQuiet : Item → Bool
  | .tuple _ xs | .list xs | .dict _ xs | .set xs => areQuiet xs
  | .unary _ _ x _ => isQuiet x
  | .binary _ _ l r _ => isQuiet l && isQuiet r
  | x => !x.isSignaling

def areQuiet : List Item → Bool
  | [] => true
  | x :: xs => isQuiet x && areQuiet xs

end

theorem areQuiet_iff {xs : List Item} : areQuiet xs ↔ ∀ x ∈ xs, x.isQuiet := by
  induction xs with
  | nil => simp [areQuiet]
  | cons x xs ih => rw [areQuiet, Bool.and_eq_true, ih, List.forall_mem_cons]

theorem quiet_parts {x : Item} (quiet : x.isQuiet) :
    (∀ p ∈ x.ordered, p.isQuiet) ∧ ∀ e ∈ x.entries, e.2.isQuiet := by
  cases x with
  | tuple f xs => exact ⟨areQuiet_iff.1 quiet, nofun⟩
  | list xs => exact ⟨areQuiet_iff.1 quiet, nofun⟩
  | dict ks vs => exact ⟨nofun, fun e among => areQuiet_iff.1 quiet _ (List.of_mem_zip among).2⟩
  | set xs => exact ⟨nofun, fun e among => areQuiet_iff.1 quiet _ (List.of_mem_zip among).2⟩
  | unary s op x k => exact ⟨List.forall_mem_singleton.2 quiet, nofun⟩
  | binary s op l r k =>
    obtain ⟨left, right⟩ := Bool.and_eq_true_iff.1 quiet
    exact ⟨List.forall_mem_cons.2 ⟨left, List.forall_mem_singleton.2 right⟩, nofun⟩
  | _ => exact ⟨nofun, nofun⟩

theorem quiet_atom {x : Item} (quiet : x.isQuiet) : x.isSignaling = false := by
  cases x with
  | decimal d => simpa [isQuiet] using quiet
  | _ => rfl

theorem equalsAll_answered {xs ys : List Item} (each : ∀ x ∈ xs, ∀ y, y.isQuiet → Answered (x.equals y))
    (quiet : ∀ y ∈ ys, y.isQuiet) : Answered (equalsAll xs ys) := by
  induction xs generalizing ys with
  | nil => cases ys <;> exact ⟨_, rfl⟩
  | cons x xs ih =>
    cases ys with
    | nil => exact ⟨false, rfl⟩
    | cons y ys =>
      rw [List.forall_mem_cons] at each quiet
      exact (each.1 y quiet.1).against.both (ih each.2 quiet.2)

theorem matched_answered {es fs : List (Item × Item)}
    (each : ∀ e ∈ es, ∀ y, y.isQuiet → Answered (e.2.equals y)) (quiet : ∀ f ∈ fs, f.2.isQuiet) :
    Answered (matched (es.map againstEntry) fs) := by
  induction es generalizing fs with
  | nil => exact ⟨true, rfl⟩
  | cons e es ih =>
    rw [List.forall_mem_cons] at each
    rw [matched_entries]
    split
    next f found =>
      have value := each.1 f.2 (quiet f (List.mem_of_find?_eq_some found))
      exact value.against.both (ih each.2 fun g left => quiet g (List.mem_of_mem_eraseP left))
    next => exact ⟨false, rfl⟩

theorem equalsEntries_answered {ks vs ls ws : List Item}
    (each : ∀ e ∈ ks.zip vs, ∀ y, y.isQuiet → Answered (e.2.equals y)) (quiet : ∀ f ∈ ls.zip ws, f.2.isQuiet) :
    Answered (equalsEntries (comparisons ks) (comparisons vs) ls ws) := by
  rw [equalsEntries_eq]
  split
  · exact matched_answered each quiet
  · exact ⟨false, rfl⟩

theorem atom_answered {x y : Item} (atom : x.isAtom) (left : x.isSignaling = false)
    (right : y.isSignaling = false) : Answered (x.equals y) := by
  cases number : x.numeric? with
  | some p =>
    cases number' : y.numeric? with
    | some q =>
      rw [equals_numeric number number', left, right]
      exact ⟨_, rfl⟩
    | none =>
      cases x <;> cases number <;> cases y <;> cases number' <;> exact ⟨_, rfl⟩
  | none =>
    cases x <;> first
      | cases atom; done
      | cases number; done
      | cases y <;> exact ⟨_, rfl⟩

theorem quiet_answered {x y : Item} (left : x.isQuiet) (right : y.isQuiet) : Answered (x.equals y) := by
  induction x using comparing generalizing y with
  | step x parts pairs =>
  obtain ⟨ordered, values⟩ := quiet_parts left
  obtain ⟨ordered', values'⟩ := quiet_parts right
  have part : ∀ p ∈ x.ordered, ∀ z, z.isQuiet → Answered (p.equals z) := fun p among _ =>
    parts p among (ordered p among)
  have value : ∀ e ∈ x.entries, ∀ z, z.isQuiet → Answered (e.2.equals z) := fun e among _ =>
    (pairs e among).2 (values e among)
  cases x with
  | tuple f xs =>
    cases y with
    | tuple g ys => exact equalsAll_answered part ordered'
    | _ => exact ⟨false, rfl⟩
  | list xs =>
    cases y with
    | list ys =>
      rw [equals]
      split
      · exact equalsAll_answered part ordered'
      · exact ⟨false, rfl⟩
    | _ => exact ⟨false, rfl⟩
  | dict ks vs =>
    cases y with
    | dict ls ws => exact equalsEntries_answered value values'
    | _ => exact ⟨false, rfl⟩
  | set xs =>
    cases y with
    | set ys => exact equalsEntries_answered value values'
    | _ => exact ⟨false, rfl⟩
  | unary s op x k =>
    cases y with
    | unary t p z j =>
      rw [equals]
      split
      · exact (part x List.mem_cons_self z (ordered' z List.mem_cons_self)).against
      · exact ⟨false, rfl⟩
    | _ => exact ⟨false, rfl⟩
  | binary s op l r k =>
    cases y with
    | binary t p m n j =>
      have last {u v : Item} : v ∈ [u, v] := List.mem_cons_of_mem _ List.mem_cons_self
      rw [equals]
      split
      · have first := part l List.mem_cons_self m (ordered' m List.mem_cons_self)
        exact first.against.both (part r last n (ordered' n last)).against
      · exact ⟨false, rfl⟩
    | _ => exact ⟨false, rfl⟩
  | _ => exact atom_answered rfl (quiet_atom left) (quiet_atom right)

end Item

namespace Check

variable {signature : List (String × Kind)} {text text' : String}
  {os us met met' before before' : List Occurrence} {o u : Occurrence}

theorem find_named (behind : before.map Occurrence.variable = before'.map Occurrence.variable) (n : String) :
    (before.find? (isNamed n)).map Occurrence.variable = (before'.find? (isNamed n)).map Occurrence.variable := by
  have named : isNamed n = (fun v => v.1 == n) ∘ Occurrence.variable := rfl
  rw [named, ← List.find?_map, ← List.find?_map, behind]

theorem any_named (behind : before.map Occurrence.variable = before'.map Occurrence.variable) (n : String) :
    before.any (isNamed n) = before'.any (isNamed n) := by
  have named : isNamed n = (fun v => v.1 == n) ∘ Occurrence.variable := rfl
  rw [named, ← List.any_map, ← List.any_map, behind]

theorem conflicting_intros (same : o.variable = u.variable)
    (behind : before.map Occurrence.variable = before'.map Occurrence.variable) :
    (conflicting text before o).map Issue.intro = (conflicting text' before' u).map Issue.intro := by
  obtain ⟨name, kind⟩ : o.name = u.name ∧ o.kind = u.kind := by simpa [Occurrence.variable] using same
  have first := find_named behind u.name
  unfold conflicting
  rw [name, kind]
  cases found : before.find? (isNamed u.name) with
  | none =>
    rw [found] at first
    rw [Option.map_eq_none_iff.1 first.symm]
  | some v =>
    rw [found] at first
    obtain ⟨w, found', same'⟩ := Option.map_eq_some_iff.1 first.symm
    have kinds : w.kind = v.kind := congrArg Prod.snd same'
    rw [found']
    dsimp only
    rw [kinds]
    split <;> rfl

section

variable [Host]

theorem misfitting_intros (same : o.variable = u.variable)
    (behind : before.map Occurrence.variable = before'.map Occurrence.variable) :
    (misfitting signature text met before o).map Issue.intro =
      (misfitting signature text' met' before' u).map Issue.intro := by
  obtain ⟨name, kind⟩ : o.name = u.name ∧ o.kind = u.kind := by simpa [Occurrence.variable] using same
  unfold misfitting
  rw [name, kind, any_named behind]
  split <;> split <;> rfl

theorem findingsFrom_intros (ahead : os.map Occurrence.variable = us.map Occurrence.variable)
    (behind : before.map Occurrence.variable = before'.map Occurrence.variable) :
    (findingsFrom signature text met before os).map Issue.intro =
      (findingsFrom signature text' met' before' us).map Issue.intro := by
  induction os generalizing us before before' with
  | nil =>
    obtain rfl := List.map_eq_nil_iff.1 ahead.symm
    rfl
  | cons o os ih =>
    obtain ⟨u, us, rfl, first, rest⟩ := List.map_eq_cons_iff.1 ahead.symm
    have grown : (before ++ [o]).map Occurrence.variable = (before' ++ [u]).map Occurrence.variable := by
      simp [behind, first]
    have conflict : (conflicting text before o).map Issue.intro = (conflicting text' before' u).map Issue.intro :=
      conflicting_intros first.symm behind
    have misfit : (misfitting signature text met before o).map Issue.intro =
        (misfitting signature text' met' before' u).map Issue.intro := misfitting_intros first.symm behind
    rw [findingsFrom, findingsFrom, List.map_append, List.map_append, List.map_append, List.map_append,
      conflict, misfit, ih rest.symm grown]

end

end Check

section

variable [Host]

theorem Item.findings_intros {a b : Item} (same : a.declarations = b.declarations)
    (signature : List (String × Kind)) :
    (a.findings signature).map Issue.intro = (b.findings signature).map Issue.intro :=
  Check.findingsFrom_intros (by rw [Check.declarations_eq, Check.declarations_eq, same]) rfl

-- Both refuse an expression in the same words. The issues show its text, and there they may differ.
def Failure.SameReason (f g : Failure) : Prop :=
  ∃ intros texts texts', f = .rejected (.unfitting intros texts) ∧ g = .rejected (.unfitting intros texts')

theorem requirePlausible_reason {a b : Item} (same : a.declarations = b.declarations)
    (signature : List (String × Kind)) (r : Report) :
    Related Eq Failure.SameReason (requirePlausible a (.typed signature) r).result
      (requirePlausible b (.typed signature) r).result := by
  obtain ⟨added, issues, -, intros, -⟩ := check_appends a signature r
  obtain ⟨added', issues', -, intros', -⟩ := check_appends b signature r
  have words : added.map Issue.intro = added'.map Issue.intro := by
    rw [intros, intros', Item.findings_intros same]
  obtain ⟨accepted, refused⟩ := requirePlausible_result issues
  obtain ⟨accepted', refused'⟩ := requirePlausible_result issues'
  by_cases none : added = []
  · have none' : added' = [] := List.map_eq_nil_iff.1 (words.symm.trans (by rw [none]; rfl))
    rw [accepted none, accepted' none']
    rfl
  · have some' : added' ≠ [] := fun none' => none (List.map_eq_nil_iff.1 (words.trans (by rw [none']; rfl)))
    rw [refused none, refused' some', words]
    exact ⟨_, _, _, rfl, rfl⟩

theorem vet_reason {a b : Item} (same : a.declarations = b.declarations) (left : a.isWritable)
    (right : b.isWritable) (signature : List (String × Kind)) (r : Report) :
    Related Eq Failure.SameReason (vet a (.typed signature) r).result (vet b (.typed signature) r).result := by
  rw [vet, if_pos left, vet, if_pos right]
  exact requirePlausible_reason same signature r

theorem vet_unwritten {x : Item} (unwritten : x.isWritable = false) (signature : Signature) (r : Report) :
    (vet x signature r).result = .error .invalid := by
  simp [vet, unwritten]

/-- Equality of nodes is an equivalence, and it comes to an answer unless a signaling number is compared. Equal
nodes have one hash, or none, and the same variables in the same order; and whatever they are checked against,
both are accepted or both are refused for the same reason, if both can be written out. No check of a node that
cannot be written out comes to an end. -/
theorem equality_of_nodes :
    Equivalence (fun a b : {x : Item // x.isExpression} => a.1.equals b.1 = .ok true) ∧
      (∀ a b : Item, a.isQuiet → b.isQuiet → ∃ same, a.equals b = .ok same) ∧
      (∀ a b : Item, a.equals b = .ok true →
        a.hash? = b.hash? ∧ freeVariables a = freeVariables b ∧
          (a.isWritable → b.isWritable → ∀ (signature : List (String × Kind)) (r : Report),
            Related Eq Failure.SameReason (vet a (.typed signature) r).result
              (vet b (.typed signature) r).result)) ∧
      ∀ x : Item, x.isWritable = false → ∀ (signature : Signature) (r : Report),
        (vet x signature r).result = .error .invalid := by
  have nodes (a b : {x : Item // x.isExpression}) : a.1.equals b.1 = .ok true ↔ a.1.Same b.1 :=
    Item.equals_node a.2
  refine ⟨?_, fun a b => Item.quiet_answered, fun a b equal => ?_, fun x => vet_unwritten⟩
  · simp only [nodes]
    exact Item.same_equivalence.comap Subtype.val
  · have same := Item.Same.of_equals equal
    have declared := Item.declarations_eq_of_same same
    refine ⟨Item.hash_eq_of_same same, ?_, vet_reason declared⟩
    rw [freeVariables_eq, freeVariables_eq, declared]

end

theorem equality_of_nodes_mixed :
    let filled (form : TupleForm) (one : Item) (keys values : List Item) (s : Nat) : Item :=
      .binary s .mod (.str "%s %s %s")
        (.tuple form [.placeholder (s + 1) "x" .int, one, .dict keys values]) .str
    let a := filled .plain (.int 1) [.int 1, .int 2] [.str "a", .str "b"] 1
    let b := filled .pair (.float (.finite false 1 0)) [.int 2, .bool true] [.str "b", .str "a"] 3
    a.isQuiet ∧ b.isQuiet ∧ a.equals b = .ok true ∧ b.equals a = .ok true ∧ a.hash? = b.hash? ∧
      freeVariables a = freeVariables b ∧ a.isWritable ∧ b.isWritable ∧
        Related Eq Failure.SameReason (vet a (.typed []) (.make false 25)).result
          (vet b (.typed []) (.make false 25)).result := by
  intro filled a b
  have equal : a.equals b = .ok true := rfl
  obtain ⟨equivalence, -, shared, -⟩ := equality_of_nodes
  have back := equivalence.symm (x := ⟨a, rfl⟩) (y := ⟨b, rfl⟩) equal
  obtain ⟨hashes, free, reasons⟩ := shared a b equal
  exact ⟨rfl, rfl, equal, back, hashes, free, by decide, by decide, reasons (by decide) (by decide) [] _⟩

-- An integer with too many digits is equal to a decimal that is easily written.
theorem unwritten_apart {m e : Int} {c : Nat} (long : Item.hasText m = false)
    (value : Extended.ofDecimal (.finite false c e) = .finite m 1) :
    let x : Item := .placeholder 1 "x" .int
    let a : Item := .binary 2 .mod x (.int m) .int
    let b : Item := .binary 3 .mod x (.decimal (.finite false c e)) .decimal
    a.Formed ∧ b.Formed ∧ a.equals b = .ok true ∧
      (vet a (.typed [("x", .int)]) (.make false 25)).result = .error .invalid ∧
      (vet b (.typed [("x", .int)]) (.make false 25)).result = .ok () := by
  intro x a b
  refine ⟨.binary (.placeholder rfl) (.literal rfl) rfl, .binary (.placeholder rfl) (.literal rfl) rfl, ?_, ?_, rfl⟩
  · simp only [a, b]
    rw [Item.equals, Item.int_equals_decimal value]
    rfl
  · exact vet_unwritten (by simp [a, x, Item.isWritable, long]) _ _

theorem equal_nodes_apart :
    let x : Item := .placeholder 1 "x" .int
    let a : Item := .binary 2 .mod x (.int (10 ^ 5000 : Nat)) .int
    let b : Item := .binary 3 .mod x (.decimal (.finite false 1 5000)) .decimal
    a.Formed ∧ b.Formed ∧ a.equals b = .ok true ∧
      (vet a (.typed [("x", .int)]) (.make false 25)).result = .error .invalid ∧
      (vet b (.typed [("x", .int)]) (.make false 25)).result = .ok () :=
  unwritten_apart (by decide +kernel) (by decide +kernel)

end Deferred
