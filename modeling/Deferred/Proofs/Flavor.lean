import Deferred.Proofs.Preparation
import Mathlib.Algebra.Group.Nat.Defs

-- The two flavors of environment over the same names and values.

set_option autoImplicit false

namespace Deferred

open Outcome

def named (pairs : List (String × Item)) : List (Item × Item) := pairs.map fun c => (.str c.1, c.2)

theorem requireName_str {n : String} (filled : n ≠ "") : requireName (.str n) = .ok n := by
  simp [requireName, filled]

theorem putInPlace_new {cells : List (String × Item)} {n : String} {w : Item}
    (new : n ∉ cells.map Prod.fst) : putInPlace cells n w = cells ++ [(n, w)] := by
  have missing : (cells.any fun c => c.1 == n) = false := by
    simp only [List.any_eq_false, beq_iff_eq]
    exact fun c among same => new (List.mem_map.2 ⟨c, among, same⟩)
  simp [putInPlace, missing]

theorem keywords_named {pairs : List (String × Item)} (distinct : (pairs.map Prod.fst).Nodup)
    (free : receiverName ∉ pairs.map Prod.fst) : keywords (named pairs) = .ok pairs := by
  refine foldlM_appends (fun cells c member new => ?_) (by simpa using distinct)
  have other : c.1 ≠ receiverName := fun same => free (List.mem_map.2 ⟨c, member, same⟩)
  simp [other, putInPlace_new new]

theorem keywords_receiver {pairs : List (String × Item)}
    (reserved : receiverName ∈ pairs.map Prod.fst) : keywords (named pairs) = .error .unsupported := by
  unfold keywords named
  generalize ([] : List (String × Item)) = cells
  induction pairs generalizing cells with
  | nil => simp at reserved
  | cons c pairs ih =>
    rw [List.map_cons, List.foldlM_cons]
    by_cases same : c.1 = receiverName
    · simp only [if_pos same]
      rfl
    · have rest : receiverName ∈ pairs.map Prod.fst := by
        simpa [Ne.symm same] using reserved
      simp only [if_neg same]
      exact ih rest _

section

variable [Host]

namespace DynamicEnvironment

omit [Host] in
theorem ofList_named {pairs : List (String × Item)} (filled : ∀ c ∈ pairs, c.1 ≠ "")
    (distinct : (pairs.map Prod.fst).Nodup) : ofList (named pairs) = .ok ⟨pairs⟩ := by
  have all : (named pairs).foldlM (fun cells p => do
      let n ← requireName p.1
      .ok (putInPlace cells n p.2)) [] = .ok ([] ++ pairs) := by
    refine foldlM_appends (fun cells c member new => ?_) (by simpa using distinct)
    rw [requireName_str (filled c member), ← putInPlace_new new]
    rfl
  unfold ofList
  rw [all]
  rfl

def toStatic (d : DynamicEnvironment) : StaticEnvironment := ⟨d.bindings⟩

omit [Host] in
theorem bindings_name (d : DynamicEnvironment) :
    d.bindings.map Binding.name = d.cells.map Prod.fst := by
  simp [bindings, Function.comp_def]

theorem toStatic_sound {d : DynamicEnvironment} (filled : ∀ c ∈ d.cells, c.1 ≠ "")
    (distinct : (d.cells.map Prod.fst).Nodup) : StaticEnvironment.Sound d.toStatic.bindings where
  distinct := by rw [toStatic, bindings_name]; exact distinct
  named b member := by
    obtain ⟨c, among, rfl⟩ := List.mem_map.1 member
    exact filled c among
  conforms b member k kind := by
    obtain ⟨c, among, rfl⟩ := List.mem_map.1 member
    cases kind
    exact c.2.conforms_kind

omit [Host] in
theorem find?_toStatic (d : DynamicEnvironment) (n : String) :
    d.toStatic.find? n = (d.get? n).map fun w => ⟨n, w, some w.kind⟩ := by
  obtain ⟨cells⟩ := d
  unfold toStatic StaticEnvironment.find? bindings get?
  induction cells with
  | nil => rfl
  | cons c cells ih =>
    obtain ⟨m, w⟩ := c
    by_cases same : n = m
    · simp [same]
    · rw [List.map_cons, List.find?_cons, List.lookup_cons, beq_false_of_ne same,
        beq_false_of_ne (Ne.symm same)]
      exact ih

theorem lookup_toStatic (d : DynamicEnvironment) :
    (Environment.static d.toStatic).lookup = (Environment.dynamic d).lookup := by
  funext n k
  unfold Environment.lookup Environment.get Environment.get? StaticEnvironment.get?
  dsimp only
  rw [find?_toStatic]
  cases d.get? n <;> rfl

def Unfit (d : DynamicEnvironment) (v : String × Kind) : Prop :=
  ∀ w, d.get? v.1 = some w → w.conforms v.2 = false

theorem admitted_toStatic {d : DynamicEnvironment} {v : String × Kind} (nominal : v.2.Nominal) :
    Admitted (Environment.static d.toStatic).signature v ↔ ¬ d.Unfit v := by
  unfold Admitted Unfit
  rw [StaticEnvironment.lookup_signature, find?_toStatic]
  cases found : d.get? v.1 with
  | none => simp
  | some w =>
    have any : v.2 = .any → w.conforms v.2 = true := fun any => any ▸ w.conforms_any
    simpa [← nominal w] using any

theorem fit_of_lookup {d : DynamicEnvironment} {v : String × Kind} {w : Item}
    (h : (Environment.dynamic d).lookup v.1 v.2 = .ok w) : ¬ d.Unfit v := by
  obtain ⟨u, value, checked⟩ := bind_ok.1 h
  unfold Environment.get Environment.get? at value
  intro unfit
  split at value
  next found =>
    cases value
    rw [if_neg (by simp [unfit u found])] at checked
    cases checked
  next => cases value

end DynamicEnvironment

theorem mapM_bind {pairs : List (String × Item)} (filled : ∀ c ∈ pairs, c.1 ≠ "") :
    ((named pairs).map fun p => (p.1, p.2, none)).mapM (fun t => bind t.1 t.2.1 t.2.2) =
      .ok (DynamicEnvironment.mk pairs).bindings := by
  induction pairs with
  | nil => rfl
  | cons c pairs ih =>
    have first : bind (.str c.1) c.2 none = .ok ⟨c.1, c.2, some c.2.kind⟩ := by
      rw [bind, requireName_str (filled c List.mem_cons_self)]
      rfl
    rw [named, List.map_cons, List.map_cons, List.mapM_cons, first, ← named,
      ih fun d member => filled d (List.mem_cons_of_mem _ member)]
    rfl

theorem StaticEnvironment.ofList_named {pairs : List (String × Item)} (filled : ∀ c ∈ pairs, c.1 ≠ "")
    (distinct : (pairs.map Prod.fst).Nodup) :
    ofList (named pairs) = .ok (DynamicEnvironment.mk pairs).toStatic := by
  unfold ofList ofTyped
  rw [mapM_bind filled]
  exact ofBindings_raw (DynamicEnvironment.toStatic_sound filled distinct)

theorem evaluate_dynamic (x : Item) (d : DynamicEnvironment) :
    evaluate x (.dynamic d) = evaluateWith (Environment.dynamic d).lookup x := rfl

theorem evaluate_accepted {x : Item} {d : DynamicEnvironment}
    (accepted : (Environment.static d.toStatic).accept x = .ok ()) :
    evaluate x (.static d.toStatic) = evaluate x (.dynamic d) := by
  rw [evaluate, accepted, evaluate_dynamic, ← d.lookup_toStatic]
  rfl

theorem fit_of_evaluate {x w : Item} {d : DynamicEnvironment}
    (done : evaluate x (.dynamic d) = .ok w) {v : String × Kind} (occurs : v ∈ x.declarations) :
    ¬ d.Unfit v := by
  rw [evaluate_dynamic] at done
  obtain ⟨u, looked⟩ := evaluateWith_strict done v occurs
  exact DynamicEnvironment.fit_of_lookup looked

/-- What the two flavors have to agree on: text that can be written, and one kind for each name, which goes by
the kinds of values alone. -/
structure Agreeable (x : Item) : Prop where
  written : x.isWritable
  consistent : Consistent x.declarations
  nominal : ∀ v ∈ x.declarations, v.2.Nominal

theorem accept_iff_fit {x : Item} {d : DynamicEnvironment} (agreeable : Agreeable x) :
    (Environment.static d.toStatic).accept x = .ok () ↔ ∀ v ∈ x.declarations, ¬ d.Unfit v := by
  have fits (v : String × Kind) (occurs : v ∈ x.declarations) :=
    DynamicEnvironment.admitted_toStatic (d := d) (agreeable.nominal v occurs)
  rw [StaticEnvironment.accept_ok]
  constructor
  · exact fun admitted v occurs => (fits v occurs).1 (admitted.2.admitted v occurs)
  · exact fun fit =>
      ⟨agreeable.written, fun v occurs => (fits v occurs).2 (fit v occurs), agreeable.consistent⟩

theorem rejected_or_accepted {x : Item} (written : x.isWritable) (d : DynamicEnvironment) :
    (Environment.static d.toStatic).accept x = .ok () ∨
      ∃ why, (Environment.static d.toStatic).accept x = .error (.rejected why) := by
  by_cases fits : Plausible (Environment.static d.toStatic).signature x.declarations
  · exact .inl (StaticEnvironment.accept_ok.2 ⟨written, fits⟩)
  · rcases requirePlausible_refuses (.make false Report.ampleLimit) fits with refused | ⟨-, v, -, missing⟩
    · rw [Environment.accept, vet, if_pos written]
      exact .inr refused
    · rw [StaticEnvironment.lookup_signature, DynamicEnvironment.find?_toStatic] at missing
      cases d.get? v.1 <;> simp_all

/-- Distinct names with values make an environment of either flavor. Where the static one accepts an expression
they evaluate it alike, and of those that it can write out it refuses a consistent one exactly for a variable
that is unbound or bound to a value of the wrong kind, which the dynamic one gives no value either. -/
theorem flavors_agree (pairs : List (String × Item)) (filled : ∀ c ∈ pairs, c.1 ≠ "")
    (distinct : (pairs.map Prod.fst).Nodup) (x : Item) :
    ∃ s d, StaticEnvironment.ofList (named pairs) = .ok s ∧
      DynamicEnvironment.ofList (named pairs) = .ok d ∧
      (StaticEnvironment.ofKeywords (named pairs) =
        if receiverName ∈ pairs.map Prod.fst then .error .unsupported else .ok s) ∧
      (DynamicEnvironment.ofKeywords (named pairs) =
        if receiverName ∈ pairs.map Prod.fst then .error .unsupported else .ok d) ∧
      ((Environment.static s).accept x = .ok () →
        evaluate x (.static s) = evaluate x (.dynamic d)) ∧
      ((∃ v ∈ x.declarations, d.Unfit v) → ∀ w, evaluate x (.dynamic d) ≠ .ok w) ∧
      (Agreeable x →
        (∀ w, evaluate x (.static s) = .ok w ↔ evaluate x (.dynamic d) = .ok w) ∧
        ((∃ why, (Environment.static s).accept x = .error (.rejected why)) ↔
          ∃ v ∈ x.declarations, d.Unfit v)) := by
  let d : DynamicEnvironment := ⟨pairs⟩
  have dynamic : DynamicEnvironment.ofList (named pairs) = .ok d :=
    DynamicEnvironment.ofList_named filled distinct
  have static : StaticEnvironment.ofList (named pairs) = .ok d.toStatic :=
    StaticEnvironment.ofList_named filled distinct
  refine ⟨d.toStatic, d, static, dynamic, ?_, ?_, evaluate_accepted, ?_, fun agreeable => ⟨?_, ?_⟩⟩
  · unfold StaticEnvironment.ofKeywords
    split
    next reserved => rw [keywords_receiver reserved]; rfl
    next free => rw [keywords_named distinct free]; exact static
  · unfold DynamicEnvironment.ofKeywords
    split
    next reserved => rw [keywords_receiver reserved]; rfl
    next free =>
      rw [keywords_named distinct free]
      exact congrArg (Except.mapError Failure.rejected) dynamic
  · rintro ⟨v, occurs, unfit⟩ w done
    exact fit_of_evaluate done occurs unfit
  · intro w
    constructor
    · intro done
      obtain ⟨_, accepted, -⟩ := bind_ok.1 done
      rwa [evaluate_accepted accepted] at done
    · intro done
      have accepted := (accept_iff_fit agreeable).2 fun v occurs => fit_of_evaluate done occurs
      rwa [evaluate_accepted accepted]
  · constructor
    · rintro ⟨why, refused⟩
      refine Classical.byContradiction fun none => ?_
      have accepted := (accept_iff_fit agreeable).2 fun v occurs unfit => none ⟨v, occurs, unfit⟩
      rw [accepted] at refused
      cases refused
    · rintro ⟨v, occurs, unfit⟩
      refine (rejected_or_accepted agreeable.written d).resolve_left fun accepted => ?_
      exact (accept_iff_fit agreeable).1 accepted v occurs unfit

end

theorem flavors_agree_unfit :
    let pairs : List (String × Item) := [("n", .bool true), ("t", .str "a")]
    let x : Item := .binary 1 .div (.int 1) (.placeholder 2 "t" .int) .int
    (∀ c ∈ pairs, c.1 ≠ "") ∧ (pairs.map Prod.fst).Nodup ∧ Agreeable x ∧
      ∃ s d, StaticEnvironment.ofList (named pairs) = .ok s ∧
        DynamicEnvironment.ofList (named pairs) = .ok d ∧
        (∃ why, (Environment.static s).accept x = .error (.rejected why)) ∧
        ∀ w, evaluate x (.dynamic d) ≠ .ok w := by
  intro pairs x
  have filled : ∀ c ∈ pairs, c.1 ≠ "" := by simp [pairs]
  have distinct : (pairs.map Prod.fst).Nodup := by simp [pairs]
  have only : x.declarations = [("t", .int)] := rfl
  have agreeable : Agreeable x :=
    ⟨by decide, by simp [only, Consistent], by simpa [only] using Kind.nominal_native rfl⟩
  refine ⟨filled, distinct, agreeable, ?_⟩
  obtain ⟨s, d, static, dynamic, -, -, -, none, agree⟩ := flavors_agree pairs filled distinct x
  obtain ⟨-, refused⟩ := agree agreeable
  cases dynamic.symm.trans (rfl : _ = Except.ok (DynamicEnvironment.mk pairs))
  have unfit : ∃ v ∈ x.declarations, (DynamicEnvironment.mk pairs).Unfit v :=
    ⟨("t", .int), by simp [only], by rintro w ⟨⟩; rfl⟩
  exact ⟨s, _, static, dynamic, refused.2 unfit, none unfit⟩

-- An integer with too many digits is no hindrance to evaluation, but no check can begin.
theorem flavors_part {m : Int} (long : Item.hasText m = false) (large : 1 < m) :
    let x : Item := .binary 1 .mod (.placeholder 2 "x" .int) (.int m) .int
    let d : DynamicEnvironment := ⟨[("x", .int 1)]⟩
    StaticEnvironment.ofList (named d.cells) = .ok d.toStatic ∧
      DynamicEnvironment.ofList (named d.cells) = .ok d ∧
      Consistent x.declarations ∧ (∀ v ∈ x.declarations, ¬ d.Unfit v) ∧
      evaluate x (.dynamic d) = .ok (.int 1) ∧ evaluate x (.static d.toStatic) = .error .invalid := by
  intro x d
  have only : x.declarations = [("x", .int)] := rfl
  have unwritten : x.isWritable = false := by simp [x, Item.isWritable, long]
  have applied : applyBinary .mod (.int 1) (.int m) = .ok (.int 1) := by
    have rest : Matched.mod (.ints 1 m) = .ok (.int 1) := by
      rw [Matched.mod, if_neg (by omega), Matched.remainder_eq_tmod, Int.tmod_eq_of_lt (by omega) large]
    exact congrArg (Except.mapError (Trouble.during (.binary .mod))) rest
  refine ⟨rfl, rfl, by simp [only, Consistent], ?_, applied, ?_⟩
  · intro v occurs unfit
    rw [only, List.mem_singleton] at occurs
    subst occurs
    cases unfit (.int 1) rfl
  · rw [evaluate, Environment.accept, vet, unwritten]
    rfl

-- Classes that count every value as their own and no class as a part of them.
@[reducible] def Host.tolerant : Host := { Host.standard with isInstance := fun _ _ => true }

section

attribute [local instance] Host.tolerant

theorem flavors_tolerant (n : String) (c : Foreign) (w : Item) :
    let x : Item := .placeholder 1 n (.foreign c)
    let d : DynamicEnvironment := ⟨[(n, w)]⟩
    Consistent x.declarations ∧ (∀ v ∈ x.declarations, ¬ d.Unfit v) ∧
      evaluate x (.dynamic d) = .ok w ∧ ∃ why, evaluate x (.static d.toStatic) = .error (.rejected why) := by
  intro x d
  have only : x.declarations = [(n, .foreign c)] := rfl
  have bound : d.get? n = some w := by simp [d, DynamicEnvironment.get?]
  have looked : evaluate x (.dynamic d) = .ok w := by
    rw [evaluate_dynamic, evaluateWith, Environment.lookup, Environment.get, Environment.get?, bound]
    rfl
  refine ⟨by simp [only, Consistent], ?_, looked, ?_⟩
  · intro v occurs
    rw [only, List.mem_singleton] at occurs
    subst occurs
    exact DynamicEnvironment.fit_of_lookup looked
  · rcases rejected_or_accepted (x := x) rfl d with accepted | ⟨why, refused⟩
    · -- the class of the value is not a part of the one declared
      obtain ⟨k, -, wide⟩ := (StaticEnvironment.accept_ok.1 accepted).2.admitted (n, .foreign c) (by simp [only])
      obtain wide | ⟨l, -, below⟩ := wide
      · cases wide
      · cases below
    · exact ⟨why, by rw [evaluate, refused]; rfl⟩

end

theorem flavors_apart :
    let x : Item := .binary 1 .mod (.placeholder 2 "x" .int) (.int (10 ^ 5000 : Nat)) .int
    let y : Item := .placeholder 1 "x" (.foreign ⟨0, "Box"⟩)
    let d : DynamicEnvironment := ⟨[("x", .int 1)]⟩
    (StaticEnvironment.ofList (named d.cells) = .ok d.toStatic ∧
      DynamicEnvironment.ofList (named d.cells) = .ok d ∧
      Consistent x.declarations ∧ (∀ v ∈ x.declarations, ¬ d.Unfit v) ∧
      evaluate x (.dynamic d) = .ok (.int 1) ∧ evaluate x (.static d.toStatic) = .error .invalid) ∧
      Consistent y.declarations ∧ (∀ v ∈ y.declarations, ¬ @DynamicEnvironment.Unfit Host.tolerant d v) ∧
      @evaluate Host.tolerant y (.dynamic d) = .ok (.int 1) ∧
      ∃ why, @evaluate Host.tolerant y (.static d.toStatic) = .error (.rejected why) := by
  exact ⟨flavors_part (by decide +kernel) (by decide +kernel), flavors_tolerant "x" ⟨0, "Box"⟩ (.int 1)⟩

end Deferred
