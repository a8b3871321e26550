import Deferred.Proofs.Flavor

-- What evaluation depends on: the names of the free variables, all of them and nothing else.

set_option autoImplicit false

namespace Deferred

open Outcome

namespace Check

variable {signature other : Signature}

theorem comparison_congr [Host] {o : Occurrence} (agree : signature.lookup o.name = other.lookup o.name)
    (text : String) (p : Progress) : comparison signature text o p = comparison other text o p := by
  simp only [comparison, agree]

theorem run_congr [Host] {os : List Occurrence}
    (agree : ∀ o ∈ os, signature.lookup o.name = other.lookup o.name) (text : String) (p : Progress) :
    os.foldlM (occurrence signature text) p = os.foldlM (occurrence other text) p := by
  induction os generalizing p with
  | nil => rfl
  | cons o os ih =>
    rw [List.forall_mem_cons] at agree
    have step : occurrence signature text p o = occurrence other text p o := by
      simp only [occurrence, comparison_congr agree.1]
    simp only [List.foldlM_cons, step, ih agree.2]

end Check

theorem requirePlausible_congr [Host] {x : Item} {signature other : Signature}
    (agree : ∀ v ∈ x.declarations, signature.lookup v.1 = other.lookup v.1) (r : Report) :
    requirePlausible x signature r = requirePlausible x other r := by
  rw [← Check.declarations_eq, List.forall_mem_map] at agree
  have same : check x signature r = check x other r := by
    simp only [check, Check.run_congr agree]
  simp only [requirePlausible, same]

theorem vet_congr [Host] {x : Item} {signature other : Signature}
    (agree : ∀ v ∈ x.declarations, signature.lookup v.1 = other.lookup v.1) (r : Report) :
    vet x signature r = vet x other r := by
  simp only [vet, requirePlausible_congr agree]

theorem evaluate_dynamic_congr [Host] {x : Item} {d e : DynamicEnvironment}
    (agree : ∀ v ∈ x.declarations, d.get? v.1 = e.get? v.1) :
    evaluate x (.dynamic d) = evaluate x (.dynamic e) := by
  rw [evaluate_dynamic, evaluate_dynamic]
  refine evaluateWith_congr x fun v occurs => ?_
  simp only [Environment.lookup, Environment.get, Environment.get?, agree v occurs]

theorem evaluate_static_congr [Host] {x : Item} {s t : StaticEnvironment}
    (values : ∀ v ∈ x.declarations, s.get? v.1 = t.get? v.1)
    (accepted : (Environment.static s).accept x = (Environment.static t).accept x) :
    evaluate x (.static s) = evaluate x (.static t) := by
  have looked : evaluateWith (Environment.static s).lookup x =
      evaluateWith (Environment.static t).lookup x := evaluateWith_congr x fun v occurs => by
    simp only [Environment.lookup, Environment.get, Environment.get?, values v occurs]
  simp only [evaluate, accepted, looked]

theorem forall_declarations {x : Item} {P : String → Prop}
    (free : ∀ n ∈ (freeVariables x).map Prod.fst, P n) : ∀ v ∈ x.declarations, P v.1 :=
  fun _ occurs => free _ (name_mem_freeVariables.2 (List.mem_map_of_mem occurs))

theorem evaluateWith_missing [Host] {look peek : Lookup} {n : String} {f : Failure}
    (others : ∀ m k, m ≠ n → peek m k = look m k) (missing : ∀ k, peek n k = .error f) {x w : Item}
    (done : evaluateWith look x = .ok w) (occurs : n ∈ x.declarations.map Prod.fst) :
    evaluateWith peek x = .error f := by
  -- what comes before the first occurrence evaluates as it did
  have before {y : Item} (absent : n ∉ y.declarations.map Prod.fst) :
      evaluateWith peek y = evaluateWith look y :=
    evaluateWith_congr y fun v met => others v.1 v.2 fun same =>
      absent (same ▸ List.mem_map_of_mem met)
  induction x using Item.entering generalizing w with
  | literal x h => simp [h] at occurs
  | tuple g xs ih =>
    rw [Item.declarations_tuple, List.map_flatMap] at occurs
    rw [evaluateWith_tuple] at done ⊢
    obtain ⟨vs, parts, -⟩ := bind_ok.1 done
    have stopped (y : Item) (member : y ∈ xs) (here : n ∈ y.declarations.map Prod.fst) :
        evaluateWith peek y = .error f := by
      obtain ⟨u, part⟩ := mapM_each parts y member
      exact ih y member part here
    refine bind_error.2 (.inl (mapM_error_of_some parts (fun y member => ?_) ?_))
    · by_cases here : n ∈ y.declarations.map Prod.fst
      · exact .inr (stopped y member here)
      · exact .inl (before here)
    · obtain ⟨y, member, here⟩ := List.mem_flatMap.1 occurs
      exact ⟨y, member, stopped y member here⟩
  | placeholder s m k =>
    obtain rfl : n = m := by simpa using occurs
    exact missing k
  | unary s op x k ih =>
    obtain ⟨v, operand, -⟩ := bind_ok.1 done
    rw [Item.declarations_unary] at occurs
    exact bind_error.2 (.inl (ih operand occurs))
  | binary s op l r k left right =>
    obtain ⟨v, first, rest⟩ := bind_ok.1 done
    obtain ⟨u, second, -⟩ := bind_ok.1 rest
    rw [Item.declarations_binary, List.map_append, List.mem_append] at occurs
    by_cases here : n ∈ l.declarations.map Prod.fst
    · exact bind_error.2 (.inl (left first here))
    · refine bind_error.2 (.inr ⟨v, (before here).trans first, ?_⟩)
      exact bind_error.2 (.inl (right second (occurs.resolve_left here)))

namespace DynamicEnvironment

theorem get?_without_self (d : DynamicEnvironment) (n : String) : (mk (d.without n)).get? n = none := by
  rw [get?, List.lookup_eq_none_iff]
  intro c kept
  have other : c.1 ≠ n := by simpa using (List.mem_filter.1 kept).2
  simpa using other.symm

theorem get?_without (d : DynamicEnvironment) {n m : String} (apart : m ≠ n) :
    (mk (d.without n)).get? m = d.get? m := by
  obtain ⟨cells⟩ := d
  simp only [get?, without]
  induction cells with
  | nil => rfl
  | cons c cells ih =>
    obtain ⟨k, w⟩ := c
    by_cases own : k = n
    · simp [own, ih, List.lookup_cons, beq_false_of_ne apart]
    · simp [own, ih, List.lookup_cons]

theorem contains_of_get? {d : DynamicEnvironment} {n : String} {w : Item} (bound : d.get? n = some w) :
    d.contains n := by
  simpa [contains] using ⟨w, mem_of_lookup bound⟩

end DynamicEnvironment

theorem evaluate_erased [Host] {x w : Item} {d : DynamicEnvironment} {n : String}
    (done : evaluate x (.dynamic d) = .ok w) (occurs : n ∈ x.declarations.map Prod.fst) :
    ∃ e, d.erase n = .ok e ∧ evaluate x (.dynamic e) = .error (.unbound n) := by
  rw [evaluate_dynamic] at done
  have bound : d.contains n := by
    obtain ⟨v, met, rfl⟩ := List.mem_map.1 occurs
    obtain ⟨u, looked⟩ := evaluateWith_strict done v met
    obtain ⟨value, got, -⟩ := bind_ok.1 looked
    cases found : d.get? v.1 with
    | none => simp [Environment.get, Environment.get?, found] at got
    | some u => exact DynamicEnvironment.contains_of_get? found
  refine ⟨⟨d.without n⟩, by simp [DynamicEnvironment.erase, bound], ?_⟩
  rw [evaluate_dynamic]
  refine evaluateWith_missing (fun m k apart => ?_) (fun k => ?_) done occurs
  · simp [Environment.lookup, Environment.get, Environment.get?, DynamicEnvironment.get?_without d apart]
  · simp [Environment.lookup, Environment.get, Environment.get?, DynamicEnvironment.get?_without_self]
    rfl

theorem Environment.get?_eq (e : Environment) (n : String) :
    e.get? n = (e.bindings.find? fun b => b.name == n).map Binding.value := by
  cases e with
  | static s => rfl
  | dynamic d =>
    have found : (d.bindings.find? fun b => b.name == n) = _ := d.find?_toStatic n
    cases bound : d.get? n <;> simp [get?, bindings, found, bound]

theorem Environment.signature_lookup (e : Environment) (n : String) :
    e.signature.lookup n = (e.bindings.find? fun b => b.name == n).map Binding.kind :=
  StaticEnvironment.lookup_signature ⟨e.bindings⟩ n

theorem find?_named {bs : List Binding} (distinct : (bs.map Binding.name).Nodup) {n : String}
    {b : Binding} : (bs.find? fun c => c.name == n) = some b ↔ b ∈ bs ∧ b.name = n := by
  induction bs with
  | nil => simp
  | cons c bs ih =>
    rw [List.map_cons, List.nodup_cons] at distinct
    by_cases own : c.name = n
    · have others : ∀ d ∈ bs, d.name ≠ n := fun d member same =>
        distinct.1 (List.mem_map.2 ⟨d, member, same.trans own.symm⟩)
      constructor
      · intro found
        obtain rfl : c = b := by simpa [own] using found
        simp [own]
      · rintro ⟨member, named⟩
        rcases List.mem_cons.1 member with rfl | member
        · simp [own]
        · exact absurd named (others b member)
    · simp only [List.find?_cons, beq_false_of_ne own, ih distinct.2, List.mem_cons]
      constructor
      · exact fun found => ⟨.inr found.1, found.2⟩
      · rintro ⟨rfl | member, named⟩
        · exact absurd named own
        · exact ⟨member, named⟩

theorem find?_perm {bs cs : List Binding} (same : bs.Perm cs) (distinct : (bs.map Binding.name).Nodup)
    (n : String) : (bs.find? fun b => b.name == n) = cs.find? fun b => b.name == n := by
  have others : (cs.map Binding.name).Nodup := (same.map _).nodup_iff.1 distinct
  ext b
  rw [find?_named distinct, find?_named others, same.mem_iff]

def Environment.only (e : Environment) (names : List String) : List Binding :=
  e.bindings.filter fun b => names.contains b.name

theorem Environment.find?_only {e f : Environment} {names : List String}
    (same : (e.only names).Perm (f.only names)) (distinct : e.names.Nodup) {n : String}
    (free : n ∈ names) :
    (e.bindings.find? fun b => b.name == n) = f.bindings.find? fun b => b.name == n := by
  have kept (e : Environment) : ((e.only names).find? fun b => b.name == n) =
      e.bindings.find? fun b => b.name == n := by
    rw [only, List.find?_filter]
    congr 1
    funext b
    by_cases own : b.name = n <;> simp [own, free]
  rw [← kept e, ← kept f]
  exact find?_perm same (distinct.sublist (List.filter_sublist.map _)) n

section

variable [Host]

/-- The names of its free variables are all that an expression depends on. Environments of one flavor that bind
them alike give it the same outcome, and refuse it in the same words; in what order they are bound, and what
else is, does not matter. And it depends on each of them: without it, an expression that had a value fails for
want of that very name. -/
theorem freeVariables_exact (x : Item) :
    let names := (freeVariables x).map Prod.fst
    (∀ d e : DynamicEnvironment, (∀ n ∈ names, d.get? n = e.get? n) →
      evaluate x (.dynamic d) = evaluate x (.dynamic e)) ∧
    (∀ s t : StaticEnvironment, (∀ n ∈ names, s.get? n = t.get? n ∧
        (Environment.static s).signature.lookup n = (Environment.static t).signature.lookup n) →
      evaluate x (.static s) = evaluate x (.static t) ∧
        (Environment.static s).accept x = (Environment.static t).accept x) ∧
    (∀ e f : Environment, e.flavor = f.flavor → e.names.Nodup → (e.only names).Perm (f.only names) →
      evaluate x e = evaluate x f) ∧
    (∀ d w, evaluate x (.dynamic d) = .ok w → ∀ n ∈ names,
      ∃ e, d.erase n = .ok e ∧ evaluate x (.dynamic e) = .error (.unbound n)) := by
  intro names
  have dynamic (d e : DynamicEnvironment) (agree : ∀ n ∈ names, d.get? n = e.get? n) :
      evaluate x (.dynamic d) = evaluate x (.dynamic e) :=
    evaluate_dynamic_congr (forall_declarations agree)
  have static (s t : StaticEnvironment) (agree : ∀ n ∈ names, s.get? n = t.get? n ∧
      (Environment.static s).signature.lookup n = (Environment.static t).signature.lookup n) :
      evaluate x (.static s) = evaluate x (.static t) ∧
        (Environment.static s).accept x = (Environment.static t).accept x := by
    have met := forall_declarations agree
    have accepted : (Environment.static s).accept x = (Environment.static t).accept x :=
      congrArg Verdict.result (vet_congr (fun v occurs => (met v occurs).2) _)
    exact ⟨evaluate_static_congr (fun v occurs => (met v occurs).1) accepted, accepted⟩
  refine ⟨dynamic, static, fun e f flavor distinct same => ?_, fun d w done n free => ?_⟩
  · have bound (n : String) (free : n ∈ names) := Environment.find?_only same distinct free
    have values (n : String) (free : n ∈ names) : e.get? n = f.get? n := by
      rw [e.get?_eq, f.get?_eq, bound n free]
    have kinds (n : String) (free : n ∈ names) : e.signature.lookup n = f.signature.lookup n := by
      rw [e.signature_lookup, f.signature_lookup, bound n free]
    match e, f with
    | .dynamic d, .dynamic e => exact dynamic d e values
    | .static s, .static t => exact (static s t fun n free => ⟨values n free, kinds n free⟩).1
    | .dynamic _, .static _ | .static _, .dynamic _ => simp [Environment.flavor] at flavor
  · exact evaluate_erased done (name_mem_freeVariables.1 free)

end

theorem freeVariables_exact_quotient :
    let x : Item := .tuple .plain [.binary 1 .div (.int 7) (.placeholder 2 "n" .int) .int,
      .placeholder 3 "m" .any]
    let d : DynamicEnvironment := ⟨[("t", .str "a"), ("n", .int (-2)), ("m", .none)]⟩
    let e : DynamicEnvironment := ⟨[("m", .none), ("n", .int (-2))]⟩
    let s : StaticEnvironment := ⟨[⟨"n", .bool true, some .any⟩, ⟨"t", .str "a", some .str⟩]⟩
    let t : StaticEnvironment := ⟨[⟨"n", .bool true, some .any⟩]⟩
    freeVariables x = [("n", .int), ("m", .any)] ∧
      evaluate x (.dynamic d) = .ok (.tuple .plain [.int (-3), .none]) ∧
      evaluate x (.dynamic d) = evaluate x (.dynamic e) ∧
      (Environment.static s).accept x = (Environment.static t).accept x ∧
      evaluate x (.dynamic ⟨[("t", .str "a"), ("n", .int (-2))]⟩) = .error (.unbound "m") := by
  intro x d e s t
  obtain ⟨dynamic, static, -, erased⟩ := freeVariables_exact x
  have free : freeVariables x = [("n", .int), ("m", .any)] := rfl
  have done : evaluate x (.dynamic d) = .ok (.tuple .plain [.int (-3), .none]) := rfl
  have values : ∀ n ∈ (freeVariables x).map Prod.fst, d.get? n = e.get? n := by
    simp [free, d, e, DynamicEnvironment.get?, List.lookup_cons]
  have kinds : ∀ n ∈ (freeVariables x).map Prod.fst, s.get? n = t.get? n ∧
      (Environment.static s).signature.lookup n = (Environment.static t).signature.lookup n := by
    simp [free, s, t, StaticEnvironment.get?, StaticEnvironment.find?, Environment.signature,
      Environment.bindings, List.lookup_cons]
  obtain ⟨f, gone, failed⟩ := erased d _ done "m" (by simp [free])
  cases gone
  exact ⟨free, done, dynamic d e values, (static s t kinds).2, failed⟩

end Deferred
