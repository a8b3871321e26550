import Deferred.Proofs.Findings

-- One report for many checks.

set_option autoImplicit false

namespace Deferred

section

variable [Host]

/-- What can be done with a report: have an expression checked, whatever comes of it, or start over. -/
inductive Use where
  | check (x : Item) (signature : Signature)
  | reset
deriving Repr

namespace Report

def use (r : Report) : Use → Report
  | .check x signature => (requirePlausible x signature r).report
  | .reset => r.reset

def after (r : Report) (history : List Use) : Report := history.foldl use r

end Report

namespace Check

def Limited (limit : Int) : Step → Prop :=
  Outcome.Ensures (fun p => p.report.limit = limit) fun e => e.1.limit = limit

variable {limit : Int} {p : Progress}

omit [Host] in
theorem limited_issue (same : p.report.limit = limit) (i : Issue) : Limited limit (p.issue i) := by
  unfold Progress.issue
  dsimp only
  split <;> exact same

omit [Host] in
theorem limited_declaration (same : p.report.limit = limit) (text : String) (o : Occurrence) :
    Limited limit (declaration text o p) := by
  unfold declaration
  split
  · split
    · exact same
    · exact limited_issue same _
  · exact same

omit [Host] in
theorem limited_unbound (same : p.report.limit = limit) (text : String) (o : Occurrence) :
    Limited limit (unbound text o p) := by
  have entered : Limited limit (enter text o p) := by
    unfold enter
    split
    · exact same
    · exact limited_issue (p := p.keep o.name) same _
  refine entered.map fun q kept => ?_
  unfold point
  split <;> exact kept

theorem limited_comparison (same : p.report.limit = limit) (signature : Signature) (text : String)
    (o : Occurrence) : Limited limit (comparison signature text o p) := by
  unfold comparison
  split
  · exact limited_unbound same text o
  · split <;> exact same
  · split
    · exact same
    · exact limited_issue same _

theorem limited_run (same : p.report.limit = limit) (signature : Signature) (text : String)
    (os : List Occurrence) : Limited limit (os.foldlM (occurrence signature text) p) := by
  induction os generalizing p with
  | nil => exact same
  | cons o os ih =>
    rw [List.foldlM_cons]
    have step : Limited limit (occurrence signature text p o) :=
      (limited_declaration same text o).bind fun q kept => limited_comparison kept signature text o
    exact step.bind fun q kept => ih kept

end Check

theorem check_limit (x : Item) (signature : Signature) (r : Report) :
    (check x signature r).report.limit = r.limit := by
  have run : Check.Limited r.limit (Check.walk x signature r) :=
    Check.limited_run (p := .start r) rfl _ _ _
  cases outcome : Check.walk x signature r with
  | ok q => rw [(check_ok outcome).1]; exact run.result outcome
  | error e => rw [(check_error outcome).1]; exact run.failure outcome

theorem requirePlausible_report (x : Item) (signature : Signature) (r : Report) :
    (requirePlausible x signature r).report = (check x signature r).report := by
  unfold requirePlausible
  dsimp only
  split
  · rfl
  · split <;> rfl

namespace Report

end Report

-- How many issues a check adds before it gives up over them. One always fits.
def Report.room (r : Report) : Nat := (max 1 (r.limit - r.issues.length)).toNat

omit [Host] in
theorem Check.room_iff {r : Report} {n : Nat} : Room r n ↔ n = 0 ∨ (n : Int) < r.limit - r.issues.length := by
  unfold Room
  omega

omit [Host] in
theorem Check.Filled.length {r s : Report} {found : List Issue} (filled : Filled r found s) :
    ∃ added, s.issues = r.issues ++ added ∧ added.length = r.room ∧
      added.map Issue.intro = (found.map Issue.intro).take r.room := by
  obtain ⟨added, issues, some, room, full, intros⟩ := filled
  have positive : added.length ≠ 0 := by simpa using some
  have length : added.length = r.room := by
    simp only [room_iff, Report.room] at room full ⊢
    omega
  refine ⟨added, issues, length, ?_⟩
  rw [List.prefix_iff_eq_take.1 intros, List.length_map, length]

theorem check_appends (x : Item) (signature : List (String × Kind)) (r : Report) :
    ∃ added, (check x (.typed signature) r).report.issues = r.issues ++ added ∧
      added.length = min (x.findings signature).length r.room ∧
      added.map Issue.intro = ((x.findings signature).map Issue.intro).take r.room ∧
      ((x.findings signature).length < r.limit - r.issues.length → added = x.findings signature) := by
  rcases check_adds x signature r with ⟨-, issues, room⟩ | ⟨-, filled⟩
  · have fits : (x.findings signature).length ≤ r.room := by
      simp only [Check.room_iff, Report.room] at room ⊢
      omega
    refine ⟨x.findings signature, issues, (Nat.min_eq_left fits).symm, ?_, fun _ => rfl⟩
    rw [List.take_of_length_le (by simpa using fits)]
  · have none := filled.not_room
    obtain ⟨added, issues, length, intros⟩ := filled.length
    have fewer : r.room ≤ (x.findings signature).length := by
      simp only [Check.room_iff, Report.room] at none ⊢
      omega
    refine ⟨added, issues, length.trans (Nat.min_eq_right fewer).symm, intros, fun fits => ?_⟩
    exact absurd (Check.room_iff.2 (.inr fits)) none

theorem requirePlausible_result {x : Item} {signature : List (String × Kind)} {r : Report}
    {added : List Issue} (issues : (check x (.typed signature) r).report.issues = r.issues ++ added) :
    (added = [] → (requirePlausible x (.typed signature) r).result = .ok ()) ∧
      (added ≠ [] → (requirePlausible x (.typed signature) r).result =
        .error (.rejected (.unfitting (added.map Issue.intro) (added.map Issue.fullText)))) := by
  have typed : (check x (.typed signature) r).halt ≠ some .unsupported := by
    rcases check_adds x signature r with ⟨halt, -⟩ | ⟨halt, -⟩ <;> simp [halt]
  have since : (check x (.typed signature) r).report.since r.issues.length = added := by
    have counted : ¬ (r.issues.length : Int) < 0 := by omega
    simp [Report.since, issues, counted]
  unfold requirePlausible
  dsimp only
  split
  next stopped => exact absurd stopped typed
  next =>
    simp only [Report.texts, since, issues, List.length_append]
    cases added <;> simp

end

def unboundSum : Item := .binary 1 .add (.placeholder 2 "x" .int) (.placeholder 3 "y" .int) .int

end Deferred
