import Deferred.Proofs.History

-- Where the issues of a check point.

set_option autoImplicit false

namespace Deferred

open Outcome

theorem mem_modify {α : Type} {xs : List α} {j : Nat} {f : α → α} {y : α} (member : y ∈ xs.modify j f) :
    y ∈ xs ∨ ∃ x, xs[j]? = some x ∧ f x = y := by
  obtain ⟨i, found⟩ := List.mem_iff_getElem?.1 member
  rw [List.getElem?_modify] at found
  obtain ⟨x, at_, same⟩ := Option.map_eq_some_iff.1 found
  by_cases here : j = i
  · subst here
    exact .inr ⟨x, at_, by simpa using same⟩
  · rw [if_neg here] at same
    exact .inl (same ▸ List.mem_of_getElem? at_)

namespace Check

/-- The issue points somewhere, and only at occurrences of the name it is about. -/
structure Pointed (text : String) (os : List Occurrence) (i : Issue) : Prop where
  illustrates : Illustrates text os i
  somewhere : i.annotations ≠ []

/-- A check on the report `r` goes on, and all the issues that it added point somewhere. -/
structure Traced (text : String) (os : List Occurrence) (r : Report) (p : Progress) : Prop where
  issues : ∃ added, p.report.issues = r.issues ++ added ∧ (∀ i ∈ added, Pointed text os i) ∧
    (added = [] ∨ (p.report.issues.length : Int) < p.report.limit)
  unbound : ∀ n j, p.unbound? n = some j → r.issues.length ≤ j ∧
    ∃ i, p.report.issues[j]? = some i ∧ i.unboundName? = some n
  declared : ∀ n k s, p.declared.lookup n = some (k, s) → ∃ o ∈ os, o.name = n ∧ o.span = s

/-- A check on the report `r` gave up over the last of the issues it added, once the report was full. That one
points nowhere if it is about an unbound name, and the others all do. -/
structure GaveUp (text : String) (os : List Occurrence) (r s : Report) : Prop where
  full : s.limit ≤ s.issues.length
  issues : ∃ shown last, s.issues = r.issues ++ (shown ++ [last]) ∧ (∀ i ∈ shown, Pointed text os i) ∧
    ((Pointed text os last ∧ last.unboundName? = none) ∨ ∃ n, last = ⟨text, .unbound n []⟩)

def Stops (text : String) (os : List Occurrence) (r : Report) (e : Report × Halt) : Prop :=
  e.2 = .reportFull → GaveUp text os r e.1

variable {text : String} {os : List Occurrence} {r : Report} {p : Progress} {o : Occurrence}

theorem Traced.issue (traced : Traced text os r p) {i : Issue} (pointed : Pointed text os i)
    (bound : i.unboundName? = none) :
    Ensures (Traced text os r) (Stops text os r) (p.issue i) := by
  obtain ⟨added, issues, shown, -⟩ := traced.issues
  have grown : (p.report.add i).issues = r.issues ++ (added ++ [i]) := by simp [Report.add, issues]
  unfold Progress.issue
  refine .ite (fun full _ => ⟨?_, added, i, grown, shown, .inl ⟨pointed, bound⟩⟩)
    fun fits => ⟨?_, ?_, traced.declared⟩
  · simpa [Report.isFull] using full
  · refine ⟨added ++ [i], grown, ?_, .inr (by simpa [Report.isFull] using fits)⟩
    simpa [or_imp, forall_and] using ⟨shown, pointed⟩
  · intro n j kept
    obtain ⟨later, u, found, named⟩ := traced.unbound n j kept
    obtain ⟨within, -⟩ := List.getElem?_eq_some_iff.1 found
    exact ⟨later, u, (List.getElem?_append_left within).trans found, named⟩

theorem declaration_traced (traced : Traced text os r p) (met : o ∈ os) :
    Ensures (Traced text os r) (Stops text os r) (declaration text o p) := by
  unfold declaration
  split
  next k s found =>
    refine .ite (fun _ => traced) fun apart => traced.issue ⟨⟨rfl, ?_⟩, by simp [Issue.annotations]⟩ rfl
    obtain ⟨u, known, name, span⟩ := traced.declared _ _ _ found
    intro a pointed
    simp only [Issue.annotations, List.mem_cons, List.not_mem_nil, or_false] at pointed
    rcases pointed with rfl | rfl
    · exact ⟨u, known, name, span⟩
    · exact ⟨o, met, rfl, rfl⟩
  next missing =>
    refine ⟨traced.issues, traced.unbound, fun n k s found => ?_⟩
    rw [List.lookup_append] at found
    cases old : p.declared.lookup n with
    | some entry => exact traced.declared n k s (by simpa [old] using found)
    | none =>
      by_cases same : n = o.name
      · subst same
        obtain ⟨-, rfl⟩ : o.kind = k ∧ o.span = s := by simpa [old] using found
        exact ⟨o, met, rfl, rfl⟩
      · simp [old, List.lookup_cons, beq_false_of_ne same] at found

theorem pointAt_pointed {i : Issue} (illustrates : Illustrates text os i) (met : o ∈ os)
    (named : i.unboundName? = some o.name) : Pointed text os (pointAt o.span i) := by
  obtain ⟨t, cause⟩ := i
  cases cause with
  | unbound n spans =>
    obtain rfl : n = o.name := Option.some.inj named
    refine ⟨⟨illustrates.1, fun a pointed => ?_⟩, by simp [pointAt, Issue.annotations]⟩
    simp only [pointAt, Issue.annotations, List.map_append, List.mem_append] at pointed
    rcases pointed with old | new
    · exact illustrates.2 a old
    · obtain rfl : a = (o.span, "") := by simpa using new
      exact ⟨o, met, rfl, rfl⟩
  | wrongKind | conflict => cases named

theorem point_traced (traced : Traced text os r p) (met : o ∈ os) : Traced text os r (point o p) := by
  unfold point
  split
  next j kept =>
    obtain ⟨added, issues, shown, room⟩ := traced.issues
    obtain ⟨later, i, found, named⟩ := traced.unbound _ _ kept
    obtain ⟨j, rfl⟩ := Nat.exists_eq_add_of_le later
    refine ⟨⟨added.modify j (pointAt o.span), ?_, fun u among => ?_, ?_⟩, fun n k other => ?_, traced.declared⟩
    · simp only [issues, modify_append]
    · rcases mem_modify among with old | ⟨i, own, rfl⟩
      · exact shown u old
      · have same := found
        rw [issues, List.getElem?_append_right (Nat.le_add_right _ _), Nat.add_sub_cancel_left, own] at same
        obtain rfl := Option.some.inj same
        exact pointAt_pointed (shown _ (List.mem_of_getElem? own)).illustrates met named
    · simpa using room
    · obtain ⟨later, u, stands, called⟩ := traced.unbound n k other
      refine ⟨later, ?_⟩
      rw [List.getElem?_modify, stands]
      split
      · exact ⟨_, rfl, by simpa using called⟩
      · exact ⟨u, rfl, called⟩
  next => exact traced

theorem entered_traced (traced : Traced text os r p) (met : o ∈ os) (new : p.unbound? o.name = none) :
    let i : Issue := ⟨text, .unbound o.name []⟩
    let q : Progress := { p.keep o.name with report := (p.keep o.name).report.add i }
    (q.report.issues.length : Int) < q.report.limit → Traced text os r (point o q) := by
  intro i q fits
  obtain ⟨added, issues, shown, -⟩ := traced.issues
  have kept (n : String) : q.unbound? n =
      (p.unbound? n).or (if n = o.name then some p.report.issues.length else none) :=
    keep_unbound? p o.name n
  have place : q.unbound? o.name = some p.report.issues.length := by simp [kept, new]
  have grown : q.report.issues = p.report.issues ++ [i] := rfl
  have pointed : q.report.issues.modify p.report.issues.length (pointAt o.span) =
      p.report.issues ++ [⟨text, .unbound o.name [o.span]⟩] := by
    rw [grown, ← Nat.add_zero p.report.issues.length, modify_append]
    rfl
  simp only [point, place, pointed]
  refine ⟨⟨added ++ [⟨text, .unbound o.name [o.span]⟩], by simp [issues], ?_, .inr ?_⟩, fun n j found => ?_,
    traced.declared⟩
  · have here : Pointed text os ⟨text, .unbound o.name [o.span]⟩ :=
      pointAt_pointed (i := i) ⟨rfl, by simp [i, Issue.annotations]⟩ met rfl
    simpa [or_imp, forall_and] using ⟨shown, here⟩
  · simpa [grown] using fits
  · have found : (p.unbound? n).or (if n = o.name then some p.report.issues.length else none) = some j :=
      (kept n).symm.trans found
    cases old : p.unbound? n with
    | some k =>
      obtain rfl : k = j := by simpa [old] using found
      obtain ⟨later, u, stands, named⟩ := traced.unbound n k old
      obtain ⟨within, -⟩ := List.getElem?_eq_some_iff.1 stands
      exact ⟨later, u, (List.getElem?_append_left within).trans stands, named⟩
    | none =>
      obtain ⟨rfl, rfl⟩ : n = o.name ∧ p.report.issues.length = j := by simpa [old] using found
      refine ⟨by simp [issues], ⟨text, .unbound o.name [o.span]⟩, by simp, rfl⟩

theorem unbound_traced (traced : Traced text os r p) (met : o ∈ os) :
    Ensures (Traced text os r) (Stops text os r) (unbound text o p) := by
  cases known : p.unbound? o.name with
  | some j =>
    have entered : enter text o p = .ok p := by simp [enter, known]
    rw [unbound, entered]
    exact point_traced traced met
  | none =>
    obtain ⟨added, issues, shown, -⟩ := traced.issues
    let i : Issue := ⟨text, .unbound o.name []⟩
    have entered : enter text o p = (p.keep o.name).issue i := by simp [enter, known, i]
    have grown : ((p.keep o.name).report.add i).issues = r.issues ++ (added ++ [i]) := by
      simp [Report.add, Progress.keep, issues]
    rw [unbound, entered, Progress.issue]
    split
    next full =>
      -- the issue stands in the report, and the check never gets to point it at this occurrence
      exact fun _ => ⟨by simpa [Report.isFull] using full, added, i, grown, shown, .inr ⟨o.name, rfl⟩⟩
    next fits => exact entered_traced traced met known (by simpa [Report.isFull] using fits)

theorem comparison_traced [Host] (traced : Traced text os r p) (met : o ∈ os) (signature : Signature) :
    Ensures (Traced text os r) (Stops text os r) (comparison signature text o p) := by
  unfold comparison
  split
  next => exact unbound_traced traced met
  next => exact .ite (fun _ => traced) fun _ => nofun
  next k found =>
    refine .ite (fun _ => traced) fun _ => ?_
    refine traced.issue ⟨⟨rfl, fun a pointed => ?_⟩, by simp [Issue.annotations]⟩ rfl
    obtain rfl := List.mem_singleton.1 pointed
    exact ⟨o, met, rfl, rfl⟩

theorem run_traced [Host] (traced : Traced text os r p) (signature : Signature) {rest : List Occurrence}
    (met : ∀ o ∈ rest, o ∈ os) :
    Ensures (Traced text os r) (Stops text os r) (rest.foldlM (occurrence signature text) p) := by
  induction rest generalizing p with
  | nil => exact traced
  | cons o rest ih =>
    have here := met o List.mem_cons_self
    have step : Ensures (Traced text os r) (Stops text os r) (occurrence signature text p o) :=
      (declaration_traced traced here).bind fun q declared => comparison_traced declared here signature
    rw [List.foldlM_cons]
    exact step.bind fun q next => ih next fun u later => met u (List.mem_cons_of_mem _ later)

theorem traced_start (text : String) (os : List Occurrence) (r : Report) : Traced text os r (.start r) where
  issues := ⟨[], (List.append_nil _).symm, by simp, .inl rfl⟩
  unbound n j kept := by
    rw [Progress.unbound?, Progress.start, r.lookup_newLayout] at kept
    cases kept
  declared n k s found := by cases found

theorem walk_traced [Host] (x : Item) (signature : Signature) (r : Report) :
    Ensures (Traced x.format (visits x) r) (Stops x.format (visits x) r) (walk x signature r) :=
  run_traced (traced_start _ _ r) signature fun _ => id

end Check

theorem Report.since_added {r s : Report} {added : List Issue} (issues : s.issues = r.issues ++ added) :
    s.since r.issues.length = added := by
  have counted : ¬ (r.issues.length : Int) < 0 := by omega
  simp [Report.since, issues, counted]

section

variable [Host]

section

variable {x : Item} {signature : Signature} {r : Report} {why : Rejection}

theorem rejected_check (refused : (requirePlausible x signature r).result = .error (.rejected why)) :
    (check x signature r).halt ≠ some .unsupported ∧ ∀ added,
      (check x signature r).report.issues = r.issues ++ added →
        added ≠ [] ∧ why = .unfitting (added.map Issue.intro) (added.map Issue.fullText) := by
  unfold requirePlausible at refused
  dsimp only at refused
  split at refused
  next => cases refused
  next halt going =>
    refine ⟨going, fun added issues => ?_⟩
    split at refused
    next grown =>
      simp only [Report.texts, Report.since_added issues] at refused
      refine ⟨?_, by simpa [eq_comm] using refused⟩
      rintro rfl
      simp [issues] at grown
    next => cases refused

theorem rejected_traced (refused : (requirePlausible x signature r).result = .error (.rejected why)) :
    (∃ p, Check.Traced x.format (Check.visits x) r p ∧ (check x signature r).report = p.report) ∨
      Check.GaveUp x.format (Check.visits x) r (check x signature r).report := by
  have walked := Check.walk_traced x signature r
  cases outcome : Check.walk x signature r with
  | ok p => exact .inl ⟨p, walked.result outcome, (check_ok outcome).1⟩
  | error e =>
    obtain ⟨s, halt⟩ := e
    obtain ⟨report, halted⟩ := check_error outcome
    cases halt with
    | reportFull => exact .inr (report ▸ walked.failure outcome rfl)
    | unsupported => exact absurd halted (rejected_check refused).1

end

omit [Host] in
theorem infix_intercalate {α : Type} {sep ys : List α} {xss : List (List α)} (member : ys ∈ xss) :
    ys <:+: sep.intercalate xss := by
  induction xss with
  | nil => cases member
  | cons zs xss ih =>
    cases xss with
    | nil =>
      obtain rfl := List.mem_singleton.1 member
      exact ⟨[], [], by simp⟩
    | cons us xss =>
      rw [List.intercalate_cons_cons]
      rcases List.mem_cons.1 member with rfl | later
      · rw [List.append_assoc]
        exact (List.prefix_append _ _).isInfix
      · exact (ih later).trans (List.suffix_append _ _).isInfix

theorem Issue.illustration_infix {i : Issue} {a : Span × String} (pointed : a ∈ i.annotations) :
    (illustration i.text a.1 a.2).toList <:+: i.fullText.toList := by
  rw [fullText, String.toList_intercalate]
  refine infix_intercalate (List.mem_map_of_mem ?_)
  simp only [List.mem_append, List.mem_map]
  exact .inl (.inr ⟨a, pointed, rfl⟩)

theorem Issue.fullText_unpointed {i : Issue} {n : String} (unbound : i.unboundName? = some n)
    (nowhere : i.annotations = []) : i.fullText = i.intro ++ "\n" := by
  obtain ⟨t, cause⟩ := i
  cases cause with
  | unbound m spans =>
    have none : spans = [] := by simpa [annotations] using nowhere
    simp [fullText, annotations, footer, none, String.intercalate_cons_cons]
  | wrongKind | conflict => cases unbound

omit [Host] in
theorem Check.nowhere_iff {text : String} {os : List Occurrence} {shown : List Issue} {last i : Issue}
    (earlier : ∀ i ∈ shown, Pointed text os i)
    (final : (Pointed text os last ∧ last.unboundName? = none) ∨ ∃ n, last = ⟨text, .unbound n []⟩)
    (among : i ∈ shown ++ [last]) :
    i.annotations = [] ↔ (shown ++ [last]).getLast? = some i ∧ i.unboundName? = some i.name := by
  rw [List.getLast?_concat, Option.some.injEq]
  constructor
  · intro nowhere
    rcases List.mem_append.1 among with before | here
    · exact absurd nowhere (earlier i before).somewhere
    · obtain rfl := List.mem_singleton.1 here
      rcases final with ⟨pointed, -⟩ | ⟨n, rfl⟩
      · exact absurd nowhere pointed.somewhere
      · exact ⟨rfl, rfl⟩
  · rintro ⟨rfl, unbound⟩
    rcases final with ⟨-, bound⟩ | ⟨n, rfl⟩
    · simp [bound] at unbound
    · rfl

/-- Whatever a check is refused over, its issues point at occurrences of the names that they are about, and
their texts show each of these. An issue points nowhere only if it is about an unbound name and filled the
report, and then it is the last one and its text shows nothing. -/
theorem rejected_issues_point {x : Item} (identified : x.Identified) {signature : Signature} {r : Report}
    {why : Rejection} (refused : (requirePlausible x signature r).result = .error (.rejected why)) :
    let l := Layout.ofItem x
    let s := (requirePlausible x signature r).report
    ∃ added, added ≠ [] ∧ s.issues = r.issues ++ added ∧
      why = .unfitting (added.map Issue.intro) (added.map Issue.fullText) ∧
      (∀ i ∈ added, i.text = l.text ∧ ∀ a ∈ i.annotations, l.excerpt a.1 = i.name ∧
        (Issue.illustration i.text a.1 a.2).toList <:+: i.fullText.toList) ∧
      ∀ i ∈ added, (i.annotations = [] ↔
          r.limit ≤ s.issues.length ∧ added.getLast? = some i ∧ i.unboundName? = some i.name) ∧
        (i.annotations = [] → i.fullText = i.intro ++ "\n") := by
  intro l s
  have report : s = (check x signature r).report := requirePlausible_report x signature r
  have limit : s.limit = r.limit := report ▸ check_limit x signature r
  have points {i : Issue} (shown : Check.Illustrates x.format (Check.visits x) i) :
      i.text = l.text ∧ ∀ a ∈ i.annotations, l.excerpt a.1 = i.name ∧
        (Issue.illustration i.text a.1 a.2).toList <:+: i.fullText.toList := by
    refine ⟨shown.1, fun a pointed => ⟨?_, Issue.illustration_infix pointed⟩⟩
    obtain ⟨o, met, name, span⟩ := shown.2 a pointed
    rw [Check.visits_eq identified] at met
    rw [← span, ← name]
    exact Layout.excerpt_occurrence met
  obtain ⟨-, refusal⟩ := rejected_check refused
  rw [← report] at refusal
  rcases rejected_traced refused with ⟨p, traced, same⟩ | gaveUp
  · obtain ⟨added, issues, shown, room⟩ := traced.issues
    rw [← same, ← report] at issues room
    obtain ⟨some, reason⟩ := refusal added issues
    have going : ¬ r.limit ≤ s.issues.length := by
      have fits := room.resolve_left some
      omega
    refine ⟨added, some, issues, reason, fun i among => points (shown i among).illustrates, fun i among => ?_⟩
    have somewhere := (shown i among).somewhere
    simp [somewhere, going]
  · rw [← report] at gaveUp
    obtain ⟨full, earlier, last, issues, shown, final⟩ := gaveUp
    obtain ⟨some, reason⟩ := refusal _ issues
    have full : r.limit ≤ s.issues.length := limit ▸ full
    refine ⟨earlier ++ [last], some, issues, reason, fun i among => ?_, fun i among => ?_⟩
    · rcases List.mem_append.1 among with before | here
      · exact points (shown i before).illustrates
      · obtain rfl := List.mem_singleton.1 here
        rcases final with ⟨pointed, -⟩ | ⟨n, rfl⟩
        · exact points pointed.illustrates
        · exact ⟨rfl, by simp [Issue.annotations]⟩
    · have nowhere := Check.nowhere_iff shown final among
      exact ⟨nowhere.trans (and_iff_right full).symm, fun none => Issue.fullText_unpointed (nowhere.1 none).2 none⟩

end

theorem rejected_issues_point_full :
    let r := Report.make false 2
    let v := requirePlausible unboundSum [] r
    let texts := ["Nothing in the environment is called 'x'.\n\n    |x+y\n     ^ ",
      "Nothing in the environment is called 'y'.\n"]
    let intros := ["Nothing in the environment is called 'x'.", "Nothing in the environment is called 'y'."]
    unboundSum.Identified ∧ v.result = .error (.rejected (.unfitting intros texts)) ∧
      ∃ added, v.report.issues = r.issues ++ added ∧
        added = [⟨"x+y", .unbound "x" [⟨0, 1⟩]⟩, ⟨"x+y", .unbound "y" []⟩] ∧
        ∀ i ∈ added, i.annotations = [] ↔
          r.limit ≤ v.report.issues.length ∧ added.getLast? = some i ∧ i.unboundName? = some i.name := by
  intro r v texts intros
  have identified : unboundSum.Identified := by
    simp [Item.Identified, unboundSum, Item.variables, Item.serial?, Variable.node]
  have refused : v.result = .error (.rejected (.unfitting intros texts)) := rfl
  obtain ⟨added, -, issues, -, -, nowhere⟩ := rejected_issues_point identified refused
  have found : v.report.issues = [⟨"x+y", .unbound "x" [⟨0, 1⟩]⟩, ⟨"x+y", .unbound "y" []⟩] := by decide
  exact ⟨identified, refused, added, issues, issues.symm.trans found, fun i among => (nowhere i among).1⟩

/-- A report that one issue fills refuses the sum without showing where the name stands. -/
theorem rejected_unshown :
    let v := requirePlausible unboundSum [] (.make false 1)
    v.result = .error (.rejected (.unfitting ["Nothing in the environment is called 'x'."]
      ["Nothing in the environment is called 'x'.\n"])) ∧
      v.report.issues = [⟨"x+y", .unbound "x" []⟩] ∧ ∀ i ∈ v.report.issues, i.annotations = [] := by
  refine ⟨rfl, by decide, by decide⟩

end Deferred
