import Deferred.Host.Standard
import Deferred.Proofs.Admission
import Deferred.Proofs.Placement
import Mathlib.Data.List.Induction

-- What a check reports: the issues that the occurrences of variables make, in their order.

set_option autoImplicit false

namespace Deferred

def Signature.typed (signature : List (String × Kind)) : Signature :=
  signature.map fun p => (p.1, some p.2)

theorem Signature.lookup_typed (signature : List (String × Kind)) (n : String) :
    (typed signature).lookup n = (signature.lookup n).map some := by
  induction signature with
  | nil => rfl
  | cons p signature ih =>
    obtain ⟨m, k⟩ := p
    by_cases same : n = m
    · simp [typed, same]
    · simpa [typed, List.lookup_cons, beq_false_of_ne same] using ih

namespace Issue

def name (i : Issue) : String :=
  match i.cause with
  | .unbound n _ | .wrongKind n _ _ _ | .conflict n _ _ _ _ => n

def unboundName? (i : Issue) : Option String :=
  match i.cause with
  | .unbound n _ => some n
  | _ => none

end Issue

namespace Check

def isNamed (n : String) (o : Occurrence) : Bool := o.name == n

def spansNamed (n : String) (os : List Occurrence) : List Span :=
  (os.filter (isNamed n)).map Occurrence.span

-- What an occurrence conflicts with: the first one of its name, if that is declared otherwise.
def conflicting (text : String) (before : List Occurrence) (o : Occurrence) : List Issue :=
  match before.find? (isNamed o.name) with
  | some u => if u.kind = o.kind then [] else [⟨text, .conflict o.name u.kind o.kind u.span o.span⟩]
  | none => []

-- How an occurrence fails to fit the signature. A missing name counts at its first occurrence, for all those
-- that are `met`.
def misfitting [Host] (signature : List (String × Kind)) (text : String) (met before : List Occurrence)
    (o : Occurrence) : List Issue :=
  match signature.lookup o.name with
  | none => if before.any (isNamed o.name) then [] else [⟨text, .unbound o.name (spansNamed o.name met)⟩]
  | some k => if Algebra.admits o.kind k then [] else [⟨text, .wrongKind o.name o.kind k o.span⟩]

def findingsFrom [Host] (signature : List (String × Kind)) (text : String) (met before : List Occurrence) :
    List Occurrence → List Issue
  | [] => []
  | o :: rest =>
    conflicting text before o ++ misfitting signature text met before o ++
      findingsFrom signature text met (before ++ [o]) rest

-- The issues of occurrences, in the order in which they arise.
def findings [Host] (signature : List (String × Kind)) (text : String) (os : List Occurrence) : List Issue :=
  findingsFrom signature text os [] os

variable {signature : List (String × Kind)} {text : String} {os met before : List Occurrence}
  {o : Occurrence}

theorem findingsFrom_append [Host] (rest : List Occurrence) :
    findingsFrom signature text met before (os ++ rest) =
      findingsFrom signature text met before os ++
        findingsFrom signature text met (before ++ os) rest := by
  induction os generalizing before with
  | nil => simp [findingsFrom]
  | cons u os ih => simp [findingsFrom, ih]

-- What meeting one more occurrence changes in an issue that is there already.
def annotate (o : Occurrence) (i : Issue) : Issue :=
  if i.unboundName? = some o.name then pointAt o.span i else i

@[simp] theorem pointAt_intro (s : Span) (i : Issue) : (pointAt s i).intro = i.intro := by
  obtain ⟨text, cause⟩ := i
  cases cause <;> rfl

@[simp] theorem pointAt_unboundName? (s : Span) (i : Issue) :
    (pointAt s i).unboundName? = i.unboundName? := by
  obtain ⟨text, cause⟩ := i
  cases cause <;> rfl

@[simp] theorem annotate_intro (o : Occurrence) (i : Issue) : (annotate o i).intro = i.intro := by
  unfold annotate
  split <;> simp

@[simp] theorem annotate_unboundName? (o : Occurrence) (i : Issue) :
    (annotate o i).unboundName? = i.unboundName? := by
  unfold annotate
  split <;> simp

theorem spansNamed_append (n : String) (os : List Occurrence) (o : Occurrence) :
    spansNamed n (os ++ [o]) = spansNamed n os ++ if o.name = n then [o.span] else [] := by
  by_cases same : o.name = n <;> simp [spansNamed, isNamed, same]

theorem annotate_of_absent {is : List Issue} (absent : ∀ i ∈ is, i.unboundName? ≠ some o.name) :
    is.map (annotate o) = is := by
  have each : is.map (annotate o) = is.map id :=
    List.map_congr_left fun i member => if_neg (absent i member)
  simpa using each

theorem conflicting_absent {i : Issue} (h : i ∈ conflicting text before o) : i.unboundName? = none := by
  unfold conflicting at h
  split at h
  · split at h
    · cases h
    · rw [List.mem_singleton.1 h]; rfl
  · cases h

theorem conflicting_annotate (u : Occurrence) :
    (conflicting text before o).map (annotate u) = conflicting text before o :=
  annotate_of_absent fun i member => by simp [conflicting_absent member]

theorem any_isNamed {n : String} : os.any (isNamed n) = true ↔ n ∈ os.map Occurrence.name := by
  simp [isNamed]

section

variable [Host]

theorem misfitting_annotate (u : Occurrence) :
    misfitting signature text (met ++ [u]) before o =
      (misfitting signature text met before o).map (annotate u) := by
  unfold misfitting
  split
  · split
    · rfl
    · by_cases same : u.name = o.name
      · simp [spansNamed_append, annotate, Issue.unboundName?, pointAt, same]
      · simp [spansNamed_append, annotate, Issue.unboundName?, same, Ne.symm same]
  · split
    · rfl
    · simp [annotate, Issue.unboundName?]

theorem findingsFrom_annotate (u : Occurrence) :
    findingsFrom signature text (met ++ [u]) before os =
      (findingsFrom signature text met before os).map (annotate u) := by
  induction os generalizing before with
  | nil => rfl
  | cons o os ih => simp [findingsFrom, ih, misfitting_annotate, conflicting_annotate]

theorem findings_snoc (os : List Occurrence) (o : Occurrence) :
    findings signature text (os ++ [o]) =
      (findings signature text os ++ conflicting text os o).map (annotate o) ++
        misfitting signature text (os ++ [o]) os o := by
  rw [findings, findingsFrom_append, findingsFrom_annotate]
  simp [findings, findingsFrom, conflicting_annotate]

theorem intros_snoc (os : List Occurrence) (o : Occurrence) :
    (findings signature text os ++ conflicting text os o).map Issue.intro <+:
      (findings signature text (os ++ [o])).map Issue.intro := by
  have same : Issue.intro ∘ annotate o = Issue.intro := funext (annotate_intro o)
  have kept : ((findings signature text os ++ conflicting text os o).map (annotate o)).map Issue.intro =
      (findings signature text os ++ conflicting text os o).map Issue.intro := by rw [List.map_map, same]
  rw [findings_snoc, ← kept]
  exact (List.prefix_append _ _).map _

theorem intros_findings (os rest : List Occurrence) :
    (findings signature text os).map Issue.intro <+:
      (findings signature text (os ++ rest)).map Issue.intro := by
  induction rest generalizing os with
  | nil => simp
  | cons o rest ih =>
    rw [List.append_cons]
    have first := (List.prefix_append (findings signature text os) (conflicting text os o)).map
      Issue.intro
    exact (first.trans (intros_snoc os o)).trans (ih (os ++ [o]))

theorem unbound_snoc (os : List Occurrence) (o : Occurrence) :
    (findings signature text (os ++ [o])).filterMap Issue.unboundName? =
      (findings signature text os).filterMap Issue.unboundName? ++
        if signature.lookup o.name = none ∧ o.name ∉ os.map Occurrence.name then [o.name] else [] := by
  have kept : Issue.unboundName? ∘ annotate o = Issue.unboundName? := funext (annotate_unboundName? o)
  have conflicts : (conflicting text os o).filterMap Issue.unboundName? = [] :=
    List.filterMap_eq_nil_iff.2 fun i member => conflicting_absent member
  rw [findings_snoc, List.filterMap_append, List.filterMap_map, kept, List.filterMap_append, conflicts,
    List.append_nil]
  unfold misfitting
  cases bound : signature.lookup o.name with
  | none =>
    by_cases met : o.name ∈ os.map Occurrence.name
    · rw [if_pos (any_isNamed.2 met), if_neg fun new => new.2 met]
      rfl
    · rw [if_neg fun old => met (any_isNamed.1 old), if_pos ⟨rfl, met⟩]
      rfl
  | some k => by_cases fits : Algebra.admits o.kind k <;> simp [fits, Issue.unboundName?]

theorem mem_unbound {n : String} :
    n ∈ (findings signature text os).filterMap Issue.unboundName? ↔
      signature.lookup n = none ∧ n ∈ os.map Occurrence.name := by
  induction os using List.reverseRecOn with
  | nil => simp [findings, findingsFrom]
  | append_singleton os o ih =>
    rw [unbound_snoc, List.mem_append, ih]
    by_cases same : n = o.name
    · by_cases bound : signature.lookup o.name = none <;>
        by_cases met : o.name ∈ os.map Occurrence.name <;> simp_all
    · split <;> simp [same]

theorem unbound_distinct (os : List Occurrence) :
    ((findings signature text os).filterMap Issue.unboundName?).Nodup := by
  induction os using List.reverseRecOn with
  | nil => simp [findings, findingsFrom]
  | append_singleton os o ih =>
    rw [unbound_snoc]
    split
    next new => exact List.nodup_append.2 ⟨ih, by simp, by
      rintro n old m last rfl
      obtain rfl := List.mem_singleton.1 last
      exact new.2 (mem_unbound.1 old).2⟩
    next => simpa using ih

end

def placeOf (n : String) (is : List Issue) : Option Nat :=
  is.findIdx? fun i => i.unboundName? == some n

theorem modify_placeOf {is : List Issue} {j : Nat}
    (distinct : (is.filterMap Issue.unboundName?).Nodup) (found : placeOf o.name is = some j) :
    is.modify j (pointAt o.span) = is.map (annotate o) := by
  induction is generalizing j with
  | nil => cases found
  | cons i is ih =>
    rw [placeOf, List.findIdx?_cons] at found
    by_cases own : i.unboundName? = some o.name
    · simp only [own, beq_self_eq_true, if_true, Option.some.injEq] at found
      subst found
      rw [List.filterMap_cons_some own, List.nodup_cons] at distinct
      have absent : ∀ i ∈ is, i.unboundName? ≠ some o.name := fun i member again =>
        distinct.1 (List.mem_filterMap.2 ⟨i, member, again⟩)
      simp [annotate_of_absent absent, annotate, own]
    · have other : (i.unboundName? == some o.name) = false := by simpa using own
      simp only [other, Bool.false_eq_true, if_false, Option.map_eq_some_iff] at found
      obtain ⟨j, found, rfl⟩ := found
      have rest : (is.filterMap Issue.unboundName?).Nodup :=
        distinct.sublist ((List.sublist_cons_self i is).filterMap _)
      simp [annotate, own, ih rest found]

-- The report takes `n` more issues without a check giving up over them.
def Room (r : Report) (n : Nat) : Prop := n = 0 ∨ (r.issues.length + n : Int) < r.limit

/-- A check on the report `r` has added the issues `found` and goes on. -/
structure Adds (r : Report) (found : List Issue) (p : Progress) : Prop where
  issues : p.report.issues = r.issues ++ found
  limit : p.report.limit = r.limit
  room : Room r found.length
  unbound : ∀ n, p.unbound? n = (placeOf n found).map (r.issues.length + ·)

-- A check on the report `r` gave up over the last of the issues it added, the intros of which are the first of
-- those that `found` has.
def Filled (r : Report) (found : List Issue) (s : Report) : Prop :=
  ∃ added, s.issues = r.issues ++ added ∧ added ≠ [] ∧ Room r (added.length - 1) ∧
    ¬ Room r added.length ∧ added.map Issue.intro <+: found.map Issue.intro

theorem Filled.mono {r s : Report} {found all : List Issue} (filled : Filled r found s)
    (more : found.map Issue.intro <+: all.map Issue.intro) : Filled r all s := by
  obtain ⟨added, issues, some, room, full, intros⟩ := filled
  exact ⟨added, issues, some, room, full, intros.trans more⟩

theorem issue_cases {r : Report} {found : List Issue} {p : Progress} (i : Issue)
    (issues : p.report.issues = r.issues ++ found) (limit : p.report.limit = r.limit)
    (room : Room r found.length) :
    (Room r (found ++ [i]).length ∧ p.issue i = .ok { p with report := p.report.add i }) ∨
      (p.issue i = .error (p.report.add i, .reportFull) ∧ Filled r (found ++ [i]) (p.report.add i)) := by
  have added : (p.report.add i).issues = r.issues ++ (found ++ [i]) := by simp [Report.add, issues]
  have full : (p.report.add i).isFull = true ↔ ¬ Room r (found ++ [i]).length := by
    simp only [Report.isFull, Room, added, List.length_append, List.length_singleton, decide_eq_true_eq]
    simp only [Report.add, limit]
    omega
  unfold Progress.issue
  by_cases fits : Room r (found ++ [i]).length
  · left
    rw [if_neg (by simpa [full] using fits)]
    exact ⟨fits, rfl⟩
  · right
    rw [if_pos (full.2 fits)]
    exact ⟨rfl, found ++ [i], added, by simp, by simpa using room, fits, List.prefix_rfl⟩

theorem placeOf_append_bound {found : List Issue} {i : Issue} (bound : i.unboundName? = none) (n : String) :
    placeOf n (found ++ [i]) = placeOf n found := by
  simp [placeOf, List.findIdx?_append, bound]

theorem Adds.issue {r : Report} {found : List Issue} {p : Progress} {i : Issue}
    (adds : Adds r found p) (bound : i.unboundName? = none) :
    Outcome.Ensures (fun q => Adds r (found ++ [i]) q ∧ q.declared = p.declared)
      (fun e => e.2 = .reportFull ∧ Filled r (found ++ [i]) e.1) (p.issue i) := by
  rcases issue_cases i adds.issues adds.limit adds.room with ⟨room, going⟩ | ⟨gone, filled⟩
  · rw [going]
    refine ⟨⟨by simp [Report.add, adds.issues], adds.limit, room, fun n => ?_⟩, rfl⟩
    rw [placeOf_append_bound bound, ← adds.unbound n]
    rfl
  · rw [gone]
    exact ⟨rfl, filled⟩

def Declares (os : List Occurrence) (p : Progress) : Prop :=
  ∀ n, p.declared.lookup n = (os.find? (isNamed n)).map fun u => (u.kind, u.span)

theorem declares_snoc {p : Progress} (declares : Declares os p) {u : Occurrence}
    (met : os.find? (isNamed o.name) = some u) : Declares (os ++ [o]) p := by
  intro n
  rw [declares n, List.find?_append]
  by_cases same : n = o.name
  · simp [same, met]
  · simp [isNamed, Ne.symm same]

theorem declaration_adds {r : Report} {p : Progress} {found : List Issue} (adds : Adds r found p)
    (declares : Declares os p) :
    Outcome.Ensures (fun q => Adds r (found ++ conflicting text os o) q ∧ Declares (os ++ [o]) q)
      (fun e => e.2 = .reportFull ∧ Filled r (found ++ conflicting text os o) e.1)
      (declaration text o p) := by
  have first := declares o.name
  unfold declaration conflicting
  cases met : os.find? (isNamed o.name) with
  | none =>
    rw [met] at first
    simp only [first, Option.map_none, List.append_nil]
    refine ⟨⟨adds.issues, adds.limit, adds.room, adds.unbound⟩, fun n => ?_⟩
    rw [List.lookup_append, declares n, List.find?_append]
    by_cases same : n = o.name
    · simp [same, met, isNamed]
    · simp [isNamed, Ne.symm same, List.lookup_cons, beq_false_of_ne same]
  | some u =>
    rw [met] at first
    simp only [first, Option.map_some]
    by_cases same : u.kind = o.kind
    · simp only [same, if_true, List.append_nil]
      exact ⟨adds, declares_snoc declares met⟩
    · simp only [same, if_false]
      refine (adds.issue rfl).mono (fun q grown => ⟨grown.1, fun n => ?_⟩) fun _ => id
      rw [grown.2]
      exact declares_snoc declares met n

theorem modify_append {α : Type} (xs ys : List α) (j : Nat) (f : α → α) :
    (xs ++ ys).modify (xs.length + j) f = xs ++ ys.modify j f := by
  induction xs with
  | nil => simp
  | cons x xs ih => simp [Nat.succ_add, ih]

theorem placeOf_annotate (n : String) (o : Occurrence) (is : List Issue) :
    placeOf n (is.map (annotate o)) = placeOf n is := by
  simp [placeOf, List.findIdx?_map, Function.comp_def]

theorem placeOf_eq_none {n : String} {is : List Issue} :
    placeOf n is = none ↔ n ∉ is.filterMap Issue.unboundName? := by
  simp [placeOf, List.findIdx?_eq_none_iff, List.mem_filterMap]

theorem unbound_again {r : Report} {p : Progress} {found : List Issue} {j : Nat} (text : String)
    (adds : Adds r found p) (distinct : (found.filterMap Issue.unboundName?).Nodup)
    (place : placeOf o.name found = some j) :
    ∃ q, unbound text o p = .ok q ∧ Adds r (found.map (annotate o)) q ∧ q.declared = p.declared := by
  have kept : p.unbound? o.name = some (r.issues.length + j) := by rw [adds.unbound, place]; rfl
  refine ⟨point o p, ?_, ?_, ?_⟩
  · simp [unbound, enter, kept, Except.map]
  · unfold point
    simp only [kept]
    refine ⟨?_, adds.limit, by simpa using adds.room, fun n => ?_⟩
    · rw [adds.issues, modify_append, modify_placeOf distinct place]
    · rw [placeOf_annotate, ← adds.unbound n]
      rfl
  · unfold point
    simp only [kept]

theorem keep_unbound? (p : Progress) (m n : String) :
    (p.keep m).unbound? n =
      (p.unbound? n).or (if n = m then some p.report.issues.length else none) := by
  unfold Progress.unbound? Progress.keep
  rw [List.lookup_append]
  by_cases same : n = m
  · simp [same]
  · have apart : ((p.layout, n) == (p.layout, m)) = false := by simpa using same
    simp [List.lookup_cons, apart, same]

theorem placeOf_append_unbound (found : List Issue) (m n : String) (spans : List Span) :
    placeOf n (found ++ [⟨text, .unbound m spans⟩]) =
      (placeOf n found).or (if n = m then some found.length else none) := by
  rw [placeOf, List.findIdx?_append]
  by_cases same : n = m
  · simp [placeOf, Issue.unboundName?, same]
  · simp [placeOf, Issue.unboundName?, same, Ne.symm same]

theorem unbound_new {r : Report} {p : Progress} {found : List Issue} (adds : Adds r found p)
    (new : placeOf o.name found = none) :
    Outcome.Ensures
      (fun q => Adds r (found ++ [⟨text, .unbound o.name [o.span]⟩]) q ∧ q.declared = p.declared)
      (fun e => e.2 = .reportFull ∧ Filled r (found ++ [⟨text, .unbound o.name [o.span]⟩]) e.1)
      (unbound text o p) := by
  let i : Issue := ⟨text, .unbound o.name []⟩
  have missing : p.unbound? o.name = none := by rw [adds.unbound, new]; rfl
  have entered : enter text o p = (p.keep o.name).issue i := by simp [enter, missing, i]
  rcases issue_cases i (p := p.keep o.name) adds.issues adds.limit adds.room with
    ⟨room, going⟩ | ⟨gone, filled⟩
  · let q : Progress := { p.keep o.name with report := (p.keep o.name).report.add i }
    have kept (n : String) : q.unbound? n =
        (p.unbound? n).or (if n = o.name then some p.report.issues.length else none) :=
      keep_unbound? p o.name n
    have place : q.unbound? o.name = some (r.issues.length + found.length) := by
      rw [kept, missing, adds.issues]
      simp
    have pointed : q.report.issues.modify (r.issues.length + found.length) (pointAt o.span) =
        r.issues ++ (found ++ [⟨text, .unbound o.name [o.span]⟩]) := by
      have issues : q.report.issues = r.issues ++ (found ++ [i]) := by
        simp [q, Report.add, Progress.keep, adds.issues]
      rw [issues, modify_append, ← Nat.add_zero found.length, modify_append]
      rfl
    rw [unbound, entered, going]
    simp only [Except.map, point, place, q]
    refine ⟨⟨pointed, adds.limit, by simpa using room, fun n => ?_⟩, rfl⟩
    change q.unbound? n = _
    rw [kept, placeOf_append_unbound, adds.unbound, adds.issues]
    cases placeOf n found <;> by_cases same : n = o.name <;> simp [same]
  · rw [unbound, entered, gone]
    exact ⟨rfl, filled.mono (by simp [i, Issue.intro])⟩

variable [Host]

theorem comparison_adds {r : Report} {p : Progress}
    (adds : Adds r (findings signature text os ++ conflicting text os o) p) :
    Outcome.Ensures (fun q => Adds r (findings signature text (os ++ [o])) q ∧ q.declared = p.declared)
      (fun e => e.2 = .reportFull ∧ Filled r (findings signature text (os ++ [o])) e.1)
      (comparison (.typed signature) text o p) := by
  have names : (findings signature text os ++ conflicting text os o).filterMap Issue.unboundName? =
      (findings signature text os).filterMap Issue.unboundName? := by
    rw [List.filterMap_append, List.filterMap_eq_nil_iff.2 fun i member => conflicting_absent member,
      List.append_nil]
  have distinct : ((findings signature text os ++ conflicting text os o).filterMap
      Issue.unboundName?).Nodup := names ▸ unbound_distinct os
  have absent (old : o.name ∉ (findings signature text os).filterMap Issue.unboundName?) :
      (findings signature text os ++ conflicting text os o).map (annotate o) =
        findings signature text os ++ conflicting text os o :=
    annotate_of_absent fun i member named => old (names ▸ List.mem_filterMap.2 ⟨i, member, named⟩)
  rw [findings_snoc]
  unfold comparison misfitting
  rw [Signature.lookup_typed]
  cases bound : signature.lookup o.name with
  | none =>
    simp only [Option.map_none]
    by_cases met : o.name ∈ os.map Occurrence.name
    · have again : placeOf o.name (findings signature text os ++ conflicting text os o) ≠ none := by
        rw [Ne, placeOf_eq_none, names, mem_unbound]
        simpa [bound] using met
      obtain ⟨j, place⟩ := Option.ne_none_iff_exists'.1 again
      obtain ⟨q, done, grown, kept⟩ := unbound_again text adds distinct place
      rw [if_pos (any_isNamed.2 met), List.append_nil, done]
      exact ⟨grown, kept⟩
    · have new : placeOf o.name (findings signature text os ++ conflicting text os o) = none := by
        rw [placeOf_eq_none, names, mem_unbound]
        exact fun old => met old.2
      have only : spansNamed o.name (os ++ [o]) = [o.span] := by
        have unmet : os.filter (isNamed o.name) = [] := List.filter_eq_nil_iff.2 fun u member same =>
          met (any_isNamed.1 (List.any_eq_true.2 ⟨u, member, same⟩))
        rw [spansNamed_append, spansNamed, unmet]
        simp
      rw [if_neg fun old => met (any_isNamed.1 old), absent fun old => met (mem_unbound.1 old).2, only]
      exact unbound_new adds new
  | some k =>
    simp only [Option.map_some]
    have old : o.name ∉ (findings signature text os).filterMap Issue.unboundName? := fun old => by
      have missing := (mem_unbound.1 old).1
      simp [bound] at missing
    rw [absent old]
    by_cases fits : Algebra.admits o.kind k
    · simp only [fits, if_true, List.append_nil]
      exact ⟨adds, rfl⟩
    · simp only [fits, if_false, Bool.false_eq_true]
      exact adds.issue rfl

-- An issue points at occurrences of the name it is about.
def Illustrates (text : String) (os : List Occurrence) (i : Issue) : Prop :=
  i.text = text ∧ ∀ a ∈ i.annotations, ∃ o ∈ os, o.name = i.name ∧ o.span = a.1

omit [Host] in
theorem declared_comparison {p : Progress} (declares : Declares os p) {q : Progress}
    (same : q.declared = p.declared) : Declares os q := by
  intro n
  rw [same]
  exact declares n

theorem occurrence_adds {r : Report} {p : Progress} (adds : Adds r (findings signature text os) p)
    (declares : Declares os p) (o : Occurrence) :
    Outcome.Ensures
      (fun q => Adds r (findings signature text (os ++ [o])) q ∧ Declares (os ++ [o]) q)
      (fun e => e.2 = .reportFull ∧ Filled r (findings signature text (os ++ [o])) e.1)
      (occurrence (.typed signature) text p o) := by
  have declared : Outcome.Ensures
      (fun q => Adds r (findings signature text os ++ conflicting text os o) q ∧ Declares (os ++ [o]) q)
      (fun e => e.2 = .reportFull ∧ Filled r (findings signature text (os ++ [o])) e.1)
      (declaration text o p) :=
    (declaration_adds adds declares).mono (fun _ => id) fun e stopped =>
      ⟨stopped.1, stopped.2.mono (intros_snoc os o)⟩
  refine declared.bind fun q met => (comparison_adds met.1).mono (fun c compared => ?_) fun _ => id
  exact ⟨compared.1, declared_comparison met.2 compared.2⟩

theorem run_adds {r : Report} {p : Progress} (adds : Adds r (findings signature text os) p)
    (declares : Declares os p) (rest : List Occurrence) :
    Outcome.Ensures (fun q => Adds r (findings signature text (os ++ rest)) q)
      (fun e => e.2 = .reportFull ∧ Filled r (findings signature text (os ++ rest)) e.1)
      (rest.foldlM (occurrence (.typed signature) text) p) := by
  induction rest generalizing os p with
  | nil =>
    rw [List.append_nil]
    exact adds
  | cons o rest ih =>
    rw [List.foldlM_cons, List.append_cons]
    have step : Outcome.Ensures
        (fun q => Adds r (findings signature text (os ++ [o])) q ∧ Declares (os ++ [o]) q)
        (fun e => e.2 = .reportFull ∧ Filled r (findings signature text (os ++ [o] ++ rest)) e.1)
        (occurrence (.typed signature) text p o) :=
      (occurrence_adds adds declares o).mono (fun _ => id) fun e stopped =>
        ⟨stopped.1, stopped.2.mono (intros_findings (os ++ [o]) rest)⟩
    exact step.bind fun q met => ih met.1 met.2

omit [Host] in
theorem adds_start (r : Report) : Adds r [] (.start r) where
  issues := (List.append_nil _).symm
  limit := rfl
  room := .inl rfl
  unbound n := r.lookup_newLayout n

omit [Host] in
theorem declares_start (r : Report) : Declares [] (.start r) := fun _ => rfl

end Check

section

variable [Host]

def Item.findings (signature : List (String × Kind)) (x : Item) : List Issue :=
  Check.findings signature x.format (Check.visits x)

theorem check_adds (x : Item) (signature : List (String × Kind)) (r : Report) :
    let c := check x (.typed signature) r
    let found := x.findings signature
    (c.halt = none ∧ c.report.issues = r.issues ++ found ∧ Check.Room r found.length) ∨
      (c.halt = some .reportFull ∧ Check.Filled r found c.report) := by
  have run : Outcome.Ensures (Check.Adds r (x.findings signature))
      (fun e => e.2 = .reportFull ∧ Check.Filled r (x.findings signature) e.1)
      (Check.walk x (.typed signature) r) :=
    Check.run_adds (Check.adds_start r) (Check.declares_start r) (Check.visits x)
  cases outcome : Check.walk x (.typed signature) r with
  | ok q =>
    have adds := run.result outcome
    obtain ⟨report, halt⟩ := check_ok outcome
    exact .inl ⟨halt, report ▸ adds.issues, adds.room⟩
  | error e =>
    obtain ⟨s, h⟩ := e
    obtain ⟨full, filled⟩ := run.failure outcome
    obtain ⟨report, halt⟩ := check_error outcome
    exact .inr ⟨halt.trans (congrArg some full), report ▸ filled⟩

omit [Host] in
theorem Check.Filled.not_room {r s : Report} {found : List Issue} (filled : Filled r found s) :
    ¬ Room r found.length := by
  obtain ⟨added, -, some, -, full, intros⟩ := filled
  have fewer : added.length ≤ found.length := by simpa using intros.length_le
  have positive : added.length ≠ 0 := by simpa using some
  simp only [Room] at full ⊢
  omega

omit [Host] in
theorem Check.visits_eq {x : Item} (identified : x.Identified) :
    visits x = (Layout.ofItem x).occurrences :=
  Layout.placed_occurrences identified

end

end Deferred
