import Deferred.Check
import Deferred.Proofs.Occurrence
import Deferred.Proofs.Outcome

-- What a check accepts: exactly the items whose variables are all bound, to kinds that their declarations admit, and
-- declared alike wherever they occur.

set_option autoImplicit false

namespace Deferred

open Outcome

def Admitted [Host] (signature : Signature) (v : String × Kind) : Prop :=
  ∃ bound, signature.lookup v.1 = some bound ∧
    (v.2 = .any ∨ ∃ k, bound = some k ∧ Algebra.admits v.2 k)

def Consistent (vs : List (String × Kind)) : Prop := ∀ v ∈ vs, ∀ w ∈ vs, v.1 = w.1 → v.2 = w.2

structure Plausible [Host] (signature : Signature) (vs : List (String × Kind)) : Prop where
  admitted : ∀ v ∈ vs, Admitted signature v
  consistent : Consistent vs

theorem mem_of_lookup {α : Type} {cells : List (String × α)} {n : String} {a : α}
    (h : cells.lookup n = some a) : (n, a) ∈ cells := by
  obtain ⟨before, after, rfl, -⟩ := List.lookup_eq_some_iff.1 h
  simp

theorem lookup_of_mem {α : Type} {cells : List (String × α)} {n : String} {a : α}
    (h : (n, a) ∈ cells) : ∃ b, cells.lookup n = some b := by
  rw [← Option.isSome_iff_exists, List.lookup_isSome_iff]
  exact ⟨(n, a), h, by simp⟩

theorem lookup_append_singleton {α : Type} (cells : List (String × α)) {n m : String} (a : α)
    (apart : n ≠ m) : (cells ++ [(m, a)]).lookup n = cells.lookup n := by
  simp [List.lookup_append, List.lookup_cons, beq_false_of_ne apart]

theorem Consistent.append_left {vs ws : List (String × Kind)} (h : Consistent (vs ++ ws)) :
    Consistent vs :=
  fun v mv w mw => h v (List.mem_append_left _ mv) w (List.mem_append_left _ mw)

theorem consistent_append_singleton {vs : List (String × Kind)} {v : String × Kind} :
    Consistent (vs ++ [v]) ↔ Consistent vs ∧ ∀ w ∈ vs, w.1 = v.1 → w.2 = v.2 := by
  unfold Consistent
  constructor
  · intro h
    refine ⟨fun w mw u mu => h w (by simp [mw]) u (by simp [mu]), fun w mw => ?_⟩
    exact h w (by simp [mw]) v (by simp)
  · rintro ⟨old, new⟩ w mw u mu same
    rcases List.mem_append.1 mw with mw | mw <;> rcases List.mem_append.1 mu with mu | mu
    · exact old w mw u mu same
    · rw [List.mem_singleton.1 mu] at same ⊢
      exact new w mw same
    · rw [List.mem_singleton.1 mw] at same ⊢
      exact (new u mu same.symm).symm
    · rw [List.mem_singleton.1 mw, List.mem_singleton.1 mu]

def Occurrence.variable (o : Occurrence) : String × Kind := (o.name, o.kind)

namespace Check

def count : Step → Nat
  | .ok p => p.report.issues.length
  | .error (r, _) => r.issues.length

theorem count_issue (p : Progress) (i : Issue) :
    count (p.issue i) = p.report.issues.length + 1 := by
  unfold Progress.issue
  dsimp only
  split <;> simp [count, Report.add]

theorem count_bind {n : Nat} {s : Step} {f : Progress → Step} (start : n ≤ count s)
    (grows : ∀ p, p.report.issues.length ≤ count (f p)) : n ≤ count (s >>= f) := by
  cases s with
  | error e => exact start
  | ok p => exact Nat.le_trans start (grows p)

theorem count_declaration (text : String) (o : Occurrence) (p : Progress) :
    p.report.issues.length ≤ count (declaration text o p) := by
  unfold declaration
  split
  · split
    · exact Nat.le_refl _
    · rw [count_issue]; exact Nat.le_succ _
  · exact Nat.le_refl _

@[simp] theorem length_point (o : Occurrence) (p : Progress) :
    (point o p).report.issues.length = p.report.issues.length := by
  unfold point
  split <;> simp

@[simp] theorem count_unbound_eq (text : String) (o : Occurrence) (p : Progress) :
    count (unbound text o p) = count (enter text o p) := by
  unfold unbound
  cases enter text o p <;> simp [Except.map, count]

theorem count_enter (text : String) (o : Occurrence) (p : Progress) :
    p.report.issues.length ≤ count (enter text o p) := by
  unfold enter
  split
  · exact Nat.le_refl _
  · rw [count_issue]; exact Nat.le_succ _

def Unsupported (s : Step) : Prop := ∃ r, s = .error (r, .unsupported)

theorem issue_supported (p : Progress) (i : Issue) : ¬ Unsupported (p.issue i) := by
  rintro ⟨r, h⟩
  unfold Progress.issue at h
  dsimp only at h
  split at h <;> simp at h

theorem enter_supported (text : String) (o : Occurrence) (p : Progress) :
    ¬ Unsupported (enter text o p) := by
  rintro ⟨r, h⟩
  unfold enter at h
  split at h
  · cases h
  · exact issue_supported _ _ ⟨r, h⟩

theorem declaration_supported (text : String) (o : Occurrence) (p : Progress) :
    ¬ Unsupported (declaration text o p) := by
  rintro ⟨r, h⟩
  unfold declaration at h
  split at h
  · split at h
    · cases h
    · exact issue_supported p _ ⟨r, h⟩
  · cases h

theorem Unsupported.bind {s : Step} (h : Unsupported s) (f : Progress → Step) :
    Unsupported (s >>= f) := by
  obtain ⟨r, rfl⟩ := h
  exact ⟨r, rfl⟩

/-- A check that has found nothing to report so far: all it keeps is each name's first declaration. -/
structure Clean (r : Report) (seen : List (String × Kind)) (p : Progress) : Prop where
  report : p.report = r
  unbound : ∀ n, p.unbound? n = none
  declared : ∀ n, (p.declared.lookup n).map Prod.fst = seen.lookup n

theorem Clean.agrees {r : Report} {seen : List (String × Kind)} {p : Progress} (clean : Clean r seen p)
    (consistent : Consistent seen) (v : String × Kind) :
    (∀ w ∈ seen, w.1 = v.1 → w.2 = v.2) ↔ ∀ k s, p.declared.lookup v.1 = some (k, s) → k = v.2 := by
  have first := clean.declared v.1
  constructor
  · intro alike k s found
    rw [found] at first
    exact alike (v.1, k) (mem_of_lookup first.symm) rfl
  · intro alike w member same
    obtain ⟨k, found⟩ := lookup_of_mem (same ▸ member : (v.1, w.2) ∈ seen)
    rw [found] at first
    obtain ⟨⟨l, s⟩, entry, rfl⟩ := Option.map_eq_some_iff.1 first
    rw [consistent w member (v.1, l) (mem_of_lookup found) same]
    exact alike l s entry

theorem clean_start (r : Report) : Clean r [] (.start r) where
  report := rfl
  unbound n := r.lookup_newLayout n
  declared _ := rfl

theorem declarations_eq (x : Item) : (visits x).map Occurrence.variable = x.declarations :=
  (Layout.placed_variables _ [] x.variables).trans x.variables_declarations

variable [Host]

theorem count_comparison (signature : Signature) (text : String) (o : Occurrence) (p : Progress) :
    p.report.issues.length ≤ count (comparison signature text o p) := by
  unfold comparison
  split
  · rw [count_unbound_eq]; exact count_enter text o p
  · split <;> exact Nat.le_refl _
  · split
    · exact Nat.le_refl _
    · rw [count_issue]; exact Nat.le_succ _

theorem count_occurrence (signature : Signature) (text : String) (p : Progress) (o : Occurrence) :
    p.report.issues.length ≤ count (occurrence signature text p o) :=
  count_bind (count_declaration text o p) (count_comparison signature text o)

theorem count_foldlM (signature : Signature) (text : String) (os : List Occurrence) (p : Progress) :
    p.report.issues.length ≤ count (os.foldlM (occurrence signature text) p) := by
  induction os generalizing p with
  | nil => exact Nat.le_refl _
  | cons o os ih =>
    rw [List.foldlM_cons]
    exact count_bind (count_occurrence signature text p o) ih

theorem comparison_admitted {signature : Signature} {o : Occurrence}
    (h : Admitted signature o.variable) (text : String) (p : Progress) :
    comparison signature text o p = .ok p := by
  obtain ⟨bound, found, h⟩ := h
  unfold comparison
  rw [show signature.lookup o.name = some bound from found]
  rcases h with any | ⟨k, rfl, admits⟩
  · have any : o.kind = .any := any
    cases bound <;> simp [any, Algebra.admits]
  · simp [show Algebra.admits o.kind k = true from admits]

theorem comparison_refused {signature : Signature} {o : Occurrence}
    (h : ¬ Admitted signature o.variable) (text : String) {p : Progress}
    (fresh : p.unbound? o.name = none) :
    p.report.issues.length < count (comparison signature text o p) ∨
      Unsupported (comparison signature text o p) := by
  unfold comparison
  split
  next missing =>
    left
    rw [count_unbound_eq, enter, fresh]
    simp [count_issue, Progress.keep]
  next found =>
    right
    have narrow : ¬ o.kind = .any := fun any => h ⟨none, found, .inl any⟩
    rw [if_neg narrow]
    exact ⟨_, rfl⟩
  next k found =>
    left
    have apart : ¬ Algebra.admits o.kind k = true := fun admits =>
      h ⟨some k, found, .inr ⟨k, rfl, admits⟩⟩
    rw [if_neg apart, count_issue]
    exact Nat.lt_succ_self _

theorem comparison_unsupported {signature : Signature} {text : String} {o : Occurrence}
    {p : Progress} (h : Unsupported (comparison signature text o p)) :
    signature.lookup o.name = some none := by
  obtain ⟨r, h⟩ := h
  unfold comparison at h
  split at h
  next missing => exact absurd ⟨r, map_error.1 h⟩ (enter_supported text o p)
  next found => exact found
  next k found =>
    split at h
    · cases h
    · exact absurd ⟨r, h⟩ (issue_supported p _)

theorem Clean.accepts {signature : Signature} {r : Report} {seen : List (String × Kind)}
    {p : Progress} {o : Occurrence} (clean : Clean r seen p) (text : String)
    (admitted : Admitted signature o.variable)
    (consistent : Consistent (seen ++ [o.variable])) :
    ∃ q, occurrence signature text p o = .ok q ∧ Clean r (seen ++ [o.variable]) q := by
  obtain ⟨old, alike⟩ := consistent_append_singleton.1 consistent
  have agrees := (clean.agrees old o.variable).1 alike
  have first := clean.declared o.name
  unfold occurrence declaration
  split
  next k s found =>
    obtain rfl : k = o.kind := agrees k s found
    refine ⟨p, by rw [if_pos rfl]; exact comparison_admitted admitted text p, ?_⟩
    refine ⟨clean.report, clean.unbound, fun n => ?_⟩
    rw [clean.declared]
    by_cases same : n = o.name
    · rw [same, List.lookup_append, ← first, found]; rfl
    · exact (lookup_append_singleton seen o.kind same).symm
  next missing =>
    refine ⟨_, comparison_admitted admitted text _, clean.report, clean.unbound, fun n => ?_⟩
    by_cases same : n = o.name
    · rw [same, List.lookup_append, List.lookup_append, ← first, missing]
      simp [Occurrence.variable]
    · rw [lookup_append_singleton _ _ same, clean.declared]
      exact (lookup_append_singleton seen o.kind same).symm

theorem Clean.refuses {signature : Signature} {r : Report} {seen : List (String × Kind)}
    {p : Progress} {o : Occurrence} (clean : Clean r seen p) (text : String)
    (consistent : Consistent seen)
    (h : ¬ (Admitted signature o.variable ∧ Consistent (seen ++ [o.variable]))) :
    r.issues.length < count (occurrence signature text p o) ∨
      Unsupported (occurrence signature text p o) := by
  have issues : p.report.issues.length = r.issues.length := by rw [clean.report]
  unfold occurrence declaration
  split
  next k s found =>
    split
    next same =>
      have agrees : ∀ k s, p.declared.lookup o.variable.1 = some (k, s) → k = o.variable.2 := by
        intro l t again
        cases found.symm.trans again
        exact same
      have alike := consistent_append_singleton.2 ⟨consistent, (clean.agrees consistent _).2 agrees⟩
      rw [← issues]
      exact comparison_refused (fun admitted => h ⟨admitted, alike⟩) text (clean.unbound _)
    next apart =>
      left
      exact count_bind (by simp [count_issue, issues])
        (count_comparison signature text o)
  next missing =>
    have agrees : ∀ k s, p.declared.lookup o.variable.1 = some (k, s) → k = o.variable.2 := by
      intro l t found
      cases missing.symm.trans found
    have alike := consistent_append_singleton.2 ⟨consistent, (clean.agrees consistent _).2 agrees⟩
    rw [← issues]
    let q : Progress := { p with declared := p.declared ++ [(o.name, o.kind, o.span)] }
    have fresh : q.unbound? o.name = none := clean.unbound _
    exact comparison_refused (fun admitted => h ⟨admitted, alike⟩) text fresh

theorem Clean.accepts_all {signature : Signature} {r : Report} {seen : List (String × Kind)}
    {p : Progress} (clean : Clean r seen p) (text : String) (os : List Occurrence)
    (admitted : ∀ o ∈ os, Admitted signature o.variable)
    (consistent : Consistent (seen ++ os.map Occurrence.variable)) :
    ∃ q, os.foldlM (occurrence signature text) p = .ok q ∧ q.report = r := by
  induction os generalizing seen p with
  | nil => exact ⟨p, rfl, clean.report⟩
  | cons o os ih =>
    rw [List.map_cons, List.append_cons] at consistent
    obtain ⟨q, step, next⟩ :=
      clean.accepts text (admitted o List.mem_cons_self) consistent.append_left
    rw [List.foldlM_cons, step]
    exact ih next (fun o member => admitted o (List.mem_cons_of_mem _ member)) consistent

theorem Clean.refuses_some {signature : Signature} {r : Report} {seen : List (String × Kind)}
    {p : Progress} (clean : Clean r seen p) (text : String) (os : List Occurrence)
    (consistent : Consistent seen)
    (h : ¬ ((∀ o ∈ os, Admitted signature o.variable) ∧
      Consistent (seen ++ os.map Occurrence.variable))) :
    r.issues.length < count (os.foldlM (occurrence signature text) p) ∨
      Unsupported (os.foldlM (occurrence signature text) p) := by
  induction os generalizing seen p with
  | nil => exact absurd ⟨by simp, by simpa using consistent⟩ h
  | cons o os ih =>
    rw [List.foldlM_cons]
    by_cases fits : Admitted signature o.variable ∧ Consistent (seen ++ [o.variable])
    · obtain ⟨q, step, next⟩ := clean.accepts text fits.1 fits.2
      rw [step]
      refine ih next fits.2 fun rest => h ⟨?_, ?_⟩
      · exact List.forall_mem_cons.2 ⟨fits.1, rest.1⟩
      · simpa using rest.2
    · rcases clean.refuses text consistent fits with grown | stopped
      · exact .inl (count_bind grown (count_foldlM signature text os))
      · exact .inr (stopped.bind _)

theorem foldlM_unsupported {signature : Signature} {text : String} {os : List Occurrence}
    {p : Progress} (h : Unsupported (os.foldlM (occurrence signature text) p)) :
    ∃ o ∈ os, signature.lookup o.name = some none := by
  induction os generalizing p with
  | nil => obtain ⟨r, h⟩ := h; cases h
  | cons o os ih =>
    obtain ⟨r, h⟩ := h
    rw [List.foldlM_cons] at h
    rcases bind_error.1 h with h | ⟨q, -, h⟩
    · rcases bind_error.1 h with h | ⟨q, -, h⟩
      · exact absurd ⟨r, h⟩ (declaration_supported text o p)
      · exact ⟨o, List.mem_cons_self, comparison_unsupported ⟨r, h⟩⟩
    · obtain ⟨o, member, kindless⟩ := ih ⟨r, h⟩
      exact ⟨o, List.mem_cons_of_mem _ member, kindless⟩

def walk (x : Item) (signature : Signature) (r : Report) : Step :=
  (visits x).foldlM (occurrence signature (Layout.ofItem x).text) (.start r)

theorem plausible_iff {x : Item} {signature : Signature} :
    Plausible signature x.declarations ↔
      (∀ o ∈ visits x, Admitted signature o.variable) ∧
        Consistent ([] ++ (visits x).map Occurrence.variable) := by
  rw [List.nil_append, declarations_eq, ← List.forall_mem_map (P := Admitted signature), declarations_eq]
  exact ⟨fun h => ⟨h.admitted, h.consistent⟩, fun h => ⟨h.1, h.2⟩⟩

theorem walk_accepts {x : Item} {signature : Signature} (r : Report)
    (h : Plausible signature x.declarations) : ∃ q, walk x signature r = .ok q ∧ q.report = r :=
  (clean_start r).accepts_all _ _ (plausible_iff.1 h).1 (plausible_iff.1 h).2

theorem walk_refuses {x : Item} {signature : Signature} (r : Report)
    (h : ¬ Plausible signature x.declarations) :
    r.issues.length < count (walk x signature r) ∨ Unsupported (walk x signature r) :=
  (clean_start r).refuses_some _ _ (by simp [Consistent]) fun fits => h (plausible_iff.2 fits)

end Check

variable [Host]

theorem check_ok {x : Item} {signature : Signature} {r : Report} {q : Check.Progress}
    (walked : Check.walk x signature r = .ok q) :
    (check x signature r).report = q.report ∧ (check x signature r).halt = none := by
  unfold Check.walk at walked
  simp [check, walked]

theorem check_error {x : Item} {signature : Signature} {r s : Report} {h : Halt}
    (walked : Check.walk x signature r = .error (s, h)) :
    (check x signature r).report = s ∧ (check x signature r).halt = some h := by
  unfold Check.walk at walked
  simp [check, walked]

theorem requirePlausible_accepts {x : Item} {signature : Signature} (r : Report)
    (h : Plausible signature x.declarations) : (requirePlausible x signature r).result = .ok () := by
  obtain ⟨q, walked, same⟩ := Check.walk_accepts r h
  simp [requirePlausible, check_ok walked, same]

theorem requirePlausible_unsupported {x : Item} {signature : Signature} {r : Report}
    (stopped : Check.Unsupported (Check.walk x signature r)) :
    (requirePlausible x signature r).result = .error .unsupported := by
  obtain ⟨s, walked⟩ := stopped
  simp [requirePlausible, check_error walked]

theorem requirePlausible_rejected {x : Item} {signature : Signature} {r : Report}
    (going : ¬ Check.Unsupported (Check.walk x signature r))
    (grown : r.issues.length < Check.count (Check.walk x signature r)) :
    ∃ why, (requirePlausible x signature r).result = .error (.rejected why) := by
  cases walked : Check.walk x signature r with
  | ok q =>
    have grown : r.issues.length < q.report.issues.length := by rwa [walked] at grown
    simp [requirePlausible, check_ok walked, grown]
  | error e =>
    obtain ⟨s, h⟩ := e
    have grown : r.issues.length < s.issues.length := by rwa [walked] at grown
    cases h with
    | reportFull => simp [requirePlausible, check_error walked, grown]
    | unsupported => exact absurd ⟨s, walked⟩ going

theorem requirePlausible_refuses {x : Item} {signature : Signature} (r : Report)
    (h : ¬ Plausible signature x.declarations) :
    (∃ why, (requirePlausible x signature r).result = .error (.rejected why)) ∨
      (requirePlausible x signature r).result = .error .unsupported ∧
        ∃ v ∈ x.declarations, signature.lookup v.1 = some none := by
  by_cases stopped : Check.Unsupported (Check.walk x signature r)
  · right
    obtain ⟨o, member, kindless⟩ := Check.foldlM_unsupported stopped
    refine ⟨requirePlausible_unsupported stopped, o.variable, ?_, kindless⟩
    rw [← Check.declarations_eq]
    exact List.mem_map_of_mem member
  · left
    exact requirePlausible_rejected stopped ((Check.walk_refuses r h).resolve_right stopped)

theorem requirePlausible_ok {x : Item} {signature : Signature} {r : Report} :
    (requirePlausible x signature r).result = .ok () ↔ Plausible signature x.declarations := by
  refine ⟨fun accepted => ?_, requirePlausible_accepts r⟩
  refine Classical.byContradiction fun h => ?_
  rcases requirePlausible_refuses r h with ⟨why, refused⟩ | ⟨refused, -⟩ <;>
    simp [refused] at accepted

theorem vet_ok {x : Item} {signature : Signature} {r : Report} :
    (vet x signature r).result = .ok () ↔ x.isWritable ∧ Plausible signature x.declarations := by
  unfold vet
  split
  next written => simp [written, requirePlausible_ok]
  next unwritten => simp [unwritten]

end Deferred
