import Deferred.Proofs.Integers
import Deferred.Proofs.Rebinding
import Deferred.Proofs.TypedBindings

-- What the demonstration prints and how it ends.

set_option autoImplicit false

namespace Deferred

open Outcome

namespace CommandLine

inductive Entry : Item → Prop
  | single {x : Item} (integral : x.Integral) (written : x.isWritable) : Entry x
  | tuple {xs : List Item} (parts : ∀ x ∈ xs, x.Integral) (written : Item.areWritable xs) :
      Entry (.tuple .plain xs)

theorem Entry.written {x : Item} (entry : Entry x) : x.isWritable := by
  cases entry with
  | single _ written => exact written
  | tuple _ written => exact written

theorem Entry.declared {x : Item} (entry : Entry x) : ∀ v ∈ x.declarations, v.2 = .int := by
  cases entry with
  | single integral => exact integral.declared
  | tuple parts =>
    intro v occurs
    rw [Item.declarations_tuple, List.mem_flatMap] at occurs
    obtain ⟨y, among, occurs⟩ := occurs
    exact (parts y among).declared v occurs

theorem Entry.consistent {x : Item} (entry : Entry x) : Consistent x.declarations :=
  consistent_of_declared entry.declared

end CommandLine

section

variable [Host]

def Failure.Reported (f : Failure) : Prop := ∃ m, f.message? = some m

namespace CommandLine

theorem Entry.agreeable {x : Item} (entry : Entry x) : Agreeable x :=
  ⟨entry.written, entry.consistent, fun v occurs => entry.declared v occurs ▸ Kind.nominal_native rfl⟩

theorem lookup_reported (e : Environment) (n : String) (k : Kind) :
    Ensures (fun _ => True) Failure.Reported (e.lookup n k) := by
  unfold Environment.lookup Environment.get
  cases e.get? n with
  | none => exact ⟨_, rfl⟩
  | some w => exact .ite (fun _ => trivial) fun _ => ⟨_, rfl⟩

theorem integral_reported (e : Environment) {x : Item} (integral : x.Integral) :
    Ensures (fun _ => True) Failure.Reported (evaluateWith e.lookup x) := by
  have names (n : String) : Ensures (fun _ => True) Failure.Reported (e.integer n) :=
    (lookup_reported e n .int).map fun _ _ => trivial
  have reckoned := Item.integer_ensures names (fun op => ⟨_, rfl⟩) integral
  have alike := evaluateWith_integral e integral
  cases evaluated : evaluateWith e.lookup x with
  | ok w => trivial
  | error f =>
    obtain ⟨g, failed, rfl⟩ := alike.failure evaluated
    exact reckoned.failure failed

theorem Entry.reported {x : Item} (entry : Entry x) (e : Environment) :
    Ensures (fun _ => True) Failure.Reported (evaluateWith e.lookup x) := by
  cases entry with
  | single integral => exact integral_reported e integral
  | @tuple xs parts =>
    rw [evaluateWith_tuple]
    cases evaluated : xs.mapM (evaluateWith e.lookup) with
    | ok ws => trivial
    | error f =>
      obtain ⟨y, among, failed⟩ := mapM_culprit evaluated
      exact (integral_reported e (parts y among)).failure failed

def Fits (d : DynamicEnvironment) (x : Item) : Prop := ∀ v ∈ x.declarations, ¬ d.Unfit v

theorem typed_toStatic (d : DynamicEnvironment) : ∀ b ∈ d.toStatic.bindings, b.Typed := by
  intro b among
  obtain ⟨c, -, rfl⟩ := List.mem_map.1 among
  exact ⟨c.2.kind, rfl, c.2.conforms_kind⟩

omit [Host] in
theorem signature_flavored (static : Bool) (d : DynamicEnvironment) :
    (flavored static d).signature = (Environment.static d.toStatic).signature := by
  cases static <;> rfl

theorem checked_fits {d : DynamicEnvironment} {x : Item} (entry : Entry x) (r : Report) :
    (vet x (Environment.static d.toStatic).signature r).result = .ok () ↔ Fits d x := by
  rw [vet_ok, ← StaticEnvironment.accept_ok, accept_iff_fit entry.agreeable]
  rfl

theorem check_answers (d : DynamicEnvironment) {x : Item} (entry : Entry x) (r : Report) :
    Answers (vet x (Environment.static d.toStatic).signature r).result :=
  StaticEnvironment.vet_answers entry.written (fun b among _ => typed_toStatic d b among) r

theorem prepare_flavored {d : DynamicEnvironment} (tidy : Tidy d.cells) {x : Item} (entry : Entry x)
    (r : Report) :
    (∃ p, (d.toStatic.prepare x r).result = .ok p ∧ p.evaluate = evaluate x (.dynamic d)) ∨
      (∃ why, (d.toStatic.prepare x r).result = .error (.rejected why)) ∧
        ∀ v, evaluate x (.dynamic d) ≠ .ok v := by
  cases checked : (vet x (Environment.static d.toStatic).signature r).result with
  | ok u =>
    have admitted := vet_ok.1 checked
    have values : ∀ v ∈ x.declarations, ∃ w, (Environment.static d.toStatic).lookup v.1 v.2 = .ok w :=
      fun v occurs => StaticEnvironment.lookup_total tidy.sound admitted.2 occurs
        (entry.declared v occurs ▸ Kind.coherent_native rfl)
    obtain ⟨p, prepared, outcome⟩ := StaticEnvironment.prepare_total admitted.1 admitted.2 values r
    refine .inl ⟨p, prepared, outcome.trans ?_⟩
    rw [← evaluate_accepted (StaticEnvironment.accept_ok.2 admitted)]
  | error f =>
    obtain ⟨why, rfl⟩ := (check_answers d entry r).failure checked
    refine .inr ⟨⟨why, by rw [StaticEnvironment.prepare, checked]; rfl⟩, fun v done => ?_⟩
    have fits := (checked_fits entry r).2 fun v occurs => fit_of_evaluate done occurs
    rw [checked] at fits
    cases fits

def attempt (s : Settings) (e : Environment) (x : Item) (r : Report) :
    Except Failure (Option Item) × Report × List String :=
  if s.check then
    let v := vet x e.signature r
    (v.result.map fun _ => none, v.report, v.lines)
  else
    match e with
    | .static e =>
      let v := e.prepare x r
      (do some <$> (← v.result).evaluate, v.report, v.lines)
    | .dynamic _ => (some <$> evaluate x e, r, [])

def tell (p : Progress) (x : Item) :
    Except Failure (Option Item) × Report × List String → Except (Escape × Console) Progress
  | (result, report, lines) =>
    let console := { p.console with err := p.console.err ++ lines }
    match result with
    | .ok (some v) =>
      let line := x.format ++ " => " ++ v.text
      .ok { p with console := { console with out := console.out ++ [line] }, report := report.reset }
    | .ok none => .ok { p with console, report := report.reset }
    | .error f =>
      match f.message? with
      | some m =>
        let (complaint, dice) := report.complaint console.dice
        let err := console.err ++ [x.format ++ " => error: " ++ m] ++ complaint
        .ok ⟨{ console with err, dice }, report.reset, p.failures + 1⟩
      | none => .error (.failure f, console)

theorem showOne_eq (s : Settings) (e : Environment) (p : Progress) (x : Item) :
    showOne s e p x = tell p x (attempt s e x p.report) := rfl

def printed (x : Item) : Except Failure (Option Item) → Option String
  | .ok (some v) => some (x.format ++ " => " ++ v.text)
  | _ => none

theorem tell_exact (p : Progress) (x : Item) {told : Except Failure (Option Item) × Report × List String}
    (reported : Ensures (fun _ => True) Failure.Reported told.1) :
    ∃ q, tell p x told = .ok q ∧ q.console.out = p.console.out ++ (printed x told.1).toList ∧
      (q.failures = 0 ↔ p.failures = 0 ∧ ∃ v, told.1 = .ok v) := by
  match told with
  | (.ok (some v), r, lines) => exact ⟨_, rfl, rfl, by simp⟩
  | (.ok none, r, lines) => exact ⟨_, rfl, by simp [printed], by simp⟩
  | (.error f, r, lines) =>
    obtain ⟨m, wording⟩ := reported.failure rfl
    simp only [tell, wording]
    exact ⟨_, rfl, by simp [printed], by simp⟩

theorem shown_each {s : Settings} {e : Environment} {line : Item → Option String} {Passes : Item → Prop}
    {xs : List Item} (each : ∀ x ∈ xs, ∀ p, ∃ q, showOne s e p x = .ok q ∧
      q.console.out = p.console.out ++ (line x).toList ∧ (q.failures = 0 ↔ p.failures = 0 ∧ Passes x))
    (p : Progress) : ∃ q, xs.foldlM (showOne s e) p = .ok q ∧
      q.console.out = p.console.out ++ xs.filterMap line ∧
      (q.failures = 0 ↔ p.failures = 0 ∧ ∀ x ∈ xs, Passes x) := by
  induction xs generalizing p with
  | nil => exact ⟨p, rfl, by simp, by simp⟩
  | cons x xs ih =>
    obtain ⟨q, shown, out, failures⟩ := each x List.mem_cons_self p
    obtain ⟨q', rest, out', failures'⟩ := ih (fun y among => each y (List.mem_cons_of_mem _ among)) q
    refine ⟨q', by rw [List.foldlM_cons, shown]; exact rest, ?_, ?_⟩
    · rw [out', out, List.append_assoc]
      cases found : line x <;> simp [found]
    · rw [failures', failures, and_assoc, List.forall_mem_cons]

def line (e : Environment) (x : Item) : Option String :=
  match evaluate x e with
  | .ok v => some (x.format ++ " => " ++ v.text)
  | .error _ => none

theorem evaluate_flavored (static : Bool) {d : DynamicEnvironment} {x : Item} (entry : Entry x) (v : Item) :
    evaluate x (flavored static d) = .ok v ↔ evaluate x (.dynamic d) = .ok v := by
  cases static with
  | false => rfl
  | true =>
    constructor
    · intro done
      obtain ⟨_, accepted, -⟩ := bind_ok.1 done
      rwa [← evaluate_accepted accepted]
    · intro done
      have accepted := (accept_iff_fit entry.agreeable).2 fun v occurs => fit_of_evaluate done occurs
      rwa [← evaluate_accepted accepted] at done

theorem line_flavored (static : Bool) {d : DynamicEnvironment} {x : Item} (entry : Entry x) :
    line (flavored static d) x = line (.dynamic d) x := by
  have same := evaluate_flavored static (d := d) entry
  unfold line
  cases evaluated : evaluate x (.dynamic d) with
  | ok v => rw [(same v).2 evaluated]
  | error f =>
    cases evaluated' : evaluate x (flavored static d) with
    | ok v => cases evaluated.symm.trans ((same v).1 evaluated')
    | error g => rfl

theorem attempt_flavored {s : Settings} (unchecked : s.check = false) {d : DynamicEnvironment}
    (tidy : Tidy d.cells) {x : Item} (entry : Entry x) (r : Report) :
    (attempt s (flavored s.static d) x r).1 = (evaluate x (.dynamic d)).map some ∨
      (∃ why, (attempt s (flavored s.static d) x r).1 = .error (.rejected why)) ∧
        ∀ v, evaluate x (.dynamic d) ≠ .ok v := by
  cases static : s.static with
  | false => exact .inl (by simp [attempt, unchecked, flavored]; rfl)
  | true =>
    have result : (attempt s (flavored true d) x r).1 =
        ((d.toStatic.prepare x r).result >>= fun p => p.evaluate.map some) := by
      simp [attempt, unchecked, flavored]
      rfl
    rw [result]
    rcases prepare_flavored tidy entry r with ⟨p, prepared, same⟩ | ⟨⟨why, refused⟩, none⟩
    · rw [prepared, ← same]
      exact .inl rfl
    · rw [refused]
      exact .inr ⟨⟨why, rfl⟩, none⟩

theorem showOne_evaluates {s : Settings} (unchecked : s.check = false) {d : DynamicEnvironment}
    (tidy : Tidy d.cells) {x : Item} (entry : Entry x) (p : Progress) :
    ∃ q, showOne s (flavored s.static d) p x = .ok q ∧
      q.console.out = p.console.out ++ (line (.dynamic d) x).toList ∧
      (q.failures = 0 ↔ p.failures = 0 ∧ ∃ v, evaluate x (.dynamic d) = .ok v) := by
  have plain : Ensures (fun _ => True) Failure.Reported (evaluate x (.dynamic d)) :=
    entry.reported (.dynamic d)
  rw [showOne_eq]
  rcases attempt_flavored unchecked tidy entry p.report with same | ⟨⟨why, refused⟩, none⟩
  · obtain ⟨q, told, out, failures⟩ := tell_exact p x (same ▸ plain.map fun _ _ => trivial)
    rw [same] at out failures
    refine ⟨q, told, ?_, ?_⟩
    · rw [out, line]
      cases evaluate x (.dynamic d) <;> rfl
    · rw [failures]
      cases evaluate x (.dynamic d) <;> simp [Except.map]
  · have reported : Ensures (fun _ => True) Failure.Reported
        (attempt s (flavored s.static d) x p.report).1 := by
      rw [refused]
      exact ⟨_, rfl⟩
    obtain ⟨q, told, out, failures⟩ := tell_exact p x reported
    rw [refused] at out failures
    refine ⟨q, told, ?_, ?_⟩
    · rw [out, line]
      cases evaluated : evaluate x (.dynamic d) with
      | ok v => exact absurd evaluated (none v)
      | error f => rfl
    · simpa [none] using failures

theorem showOne_checks {s : Settings} (checked : s.check = true) {d : DynamicEnvironment} {x : Item}
    (entry : Entry x) (p : Progress) :
    ∃ q, showOne s (flavored s.static d) p x = .ok q ∧
      q.console.out = p.console.out ++ (none : Option String).toList ∧
      (q.failures = 0 ↔ p.failures = 0 ∧ Fits d x) := by
  have result : (attempt s (flavored s.static d) x p.report).1 =
      (vet x (Environment.static d.toStatic).signature p.report).result.map fun _ => none := by
    rw [← signature_flavored s.static d]
    simp [attempt, checked]
  have answers := check_answers d entry p.report
  have fits := checked_fits (d := d) entry p.report
  generalize (vet x (Environment.static d.toStatic).signature p.report).result = verdict
    at result answers fits
  have reported : Ensures (fun _ => True) Failure.Reported verdict := by
    refine answers.mono (fun _ _ => trivial) ?_
    rintro _ ⟨why, rfl⟩
    exact ⟨_, rfl⟩
  rw [showOne_eq]
  obtain ⟨q, told, out, failures⟩ := tell_exact p x (result ▸ reported.map fun _ _ => trivial)
  rw [result] at out failures
  -- a check has no value to print, whichever way it comes out
  refine ⟨q, told, ?_, ?_⟩
  · rw [out]
    cases verdict <;> rfl
  · rw [failures, ← fits]
    cases verdict <;> simp [Except.map]

def foo : Item := .placeholder 1 "foo" .int

def bar : Item := .placeholder 2 "bar" .int

def blockSize : Item := .placeholder 3 "block_size" .int

def blocks : Item :=
  .binary 0 .div (.binary 0 .sub (.binary 0 .add (.int 12345) blockSize .int) (.int 1) .int) blockSize .int

def shown : List Item := [
  foo,
  .unary 0 .plus foo .int,
  .unary 0 .negate foo .int,
  .unary 0 .complement foo .int,
  .binary 0 .add (.int 7) foo .int,
  .binary 0 .sub foo bar .int,
  .binary 0 .mul foo (.int 7) .int,
  .binary 0 .div foo bar .int,
  .binary 0 .mod foo (.int 7) .int,
  blocks,
  .tuple .plain [blockSize, blocks]]

theorem showcase_eq : showcase = .ok shown := rfl

omit [Host] in
theorem blocks_integral : blocks.Integral :=
  .binary (.binary (.binary (.int _) (.placeholder 3 _)) (.int _)) (.placeholder 3 _)

omit [Host] in
theorem shown_entries : ∀ x ∈ shown, Entry x := by
  have first : foo.Integral := .placeholder 1 _
  have second : bar.Integral := .placeholder 2 _
  have third : blockSize.Integral := .placeholder 3 _
  simp only [shown, List.forall_mem_cons]
  refine ⟨.single first rfl, .single (.unary first) rfl, .single (.unary first) rfl,
    .single (.unary first) rfl, .single (.binary (.int 7) first) rfl, .single (.binary first second) rfl,
    .single (.binary first (.int 7)) rfl, .single (.binary first second) rfl,
    .single (.binary first (.int 7)) rfl, .single blocks_integral rfl, .tuple ?_ rfl, List.forall_mem_nil _⟩
  simp only [List.forall_mem_cons]
  exact ⟨third, blocks_integral, List.forall_mem_nil _⟩

structure Integers (d : DynamicEnvironment) (i j k : Int) : Prop where
  foo : (Environment.dynamic d).BindsInteger "foo" i
  bar : (Environment.dynamic d).BindsInteger "bar" j
  blockSize : (Environment.dynamic d).BindsInteger "block_size" k

theorem unfit_integer {d : DynamicEnvironment} {n : String} :
    ¬ d.Unfit (n, .int) ↔ ∃ i, (Environment.dynamic d).BindsInteger n i := by
  simp only [DynamicEnvironment.Unfit, not_forall, Bool.not_eq_false, Item.int_of_conforms_int,
    Environment.bindsInteger_dynamic, Environment.integer_ok, Environment.get, Environment.get?]
  cases d.get? n <;> simp

theorem shown_fit {d : DynamicEnvironment} :
    (∀ x ∈ shown, Fits d x) ↔ ∃ i j k, Integers d i j k := by
  have names : (∀ x ∈ shown, Fits d x) ↔
      ¬ d.Unfit ("foo", .int) ∧ ¬ d.Unfit ("bar", .int) ∧ ¬ d.Unfit ("block_size", .int) := by
    let f := ("foo", Kind.int)
    let b := ("bar", Kind.int)
    let k := ("block_size", Kind.int)
    have occurring : shown.flatMap Item.declarations = [f, f, f, f, f, f, b, f, f, b, f, k, k, k, k, k] := rfl
    have all : (∀ x ∈ shown, Fits d x) ↔ ∀ v ∈ shown.flatMap Item.declarations, ¬ d.Unfit v := by
      simp only [List.forall_mem_flatMap, Fits]
    rw [all, occurring]
    simp only [List.forall_mem_cons]
    exact ⟨fun fit => by tauto, fun fit => by tauto⟩
  rw [names, unfit_integer, unfit_integer, unfit_integer]
  constructor
  · rintro ⟨⟨i, first⟩, ⟨j, second⟩, k, third⟩
    exact ⟨i, j, k, first, second, third⟩
  · rintro ⟨i, j, k, bound⟩
    exact ⟨⟨i, bound.foo⟩, ⟨j, bound.bar⟩, k, bound.blockSize⟩

theorem integral_evaluates {d : DynamicEnvironment} {x : Item} (integral : x.Integral) :
    (∃ v, evaluate x (.dynamic d) = .ok v) ↔ ∃ n, x.integer (Environment.dynamic d).integer = .ok n := by
  have alike := evaluateWith_integral (.dynamic d) integral
  constructor
  · rintro ⟨v, done⟩
    obtain ⟨n, reckoned, -⟩ := alike.result done
    exact ⟨n, reckoned⟩
  · rintro ⟨n, reckoned⟩
    obtain ⟨v, done, -⟩ := alike.flip.result reckoned
    exact ⟨v, done⟩

omit [Host] in
theorem quotient_ok {given : String → Except Failure Int} {s : Nat} {l r : Item} {k : Kind} {q : Int}
    (done : (Item.binary s .div l r k).integer given = .ok q) : ∃ n, r.integer given = .ok n ∧ n ≠ 0 := by
  obtain ⟨m, -, rest⟩ := bind_ok.1 done
  obtain ⟨n, second, divided⟩ := bind_ok.1 rest
  refine ⟨n, second, fun zero => ?_⟩
  rw [BinaryOperator.onIntegers, if_pos zero] at divided
  cases divided

theorem pair_evaluates {d : DynamicEnvironment} {x y : Item} (first : ∃ v, evaluate x (.dynamic d) = .ok v)
    (second : ∃ v, evaluate y (.dynamic d) = .ok v) :
    ∃ v, evaluate (.tuple .plain [x, y]) (.dynamic d) = .ok v := by
  obtain ⟨v, done⟩ := first
  obtain ⟨w, done'⟩ := second
  rw [evaluate_dynamic] at done done' ⊢
  rw [evaluateWith_tuple, mapM_ok.2 (.cons done (.cons done' .nil))]
  exact ⟨_, rfl⟩

theorem shown_evaluates {d : DynamicEnvironment} :
    (∀ x ∈ shown, ∃ v, evaluate x (.dynamic d) = .ok v) ↔
      ∃ i j k, Integers d i j k ∧ j ≠ 0 ∧ k ≠ 0 := by
  have f : foo.Integral := .placeholder 1 _
  have b : bar.Integral := .placeholder 2 _
  let given := (Environment.dynamic d).integer
  constructor
  · -- every name is one of the integers that the quotients are made of
    intro evaluates
    obtain ⟨i, first⟩ := (integral_evaluates f).1 (evaluates foo (by simp [shown]))
    obtain ⟨q, ratio⟩ := (integral_evaluates (.binary f b)).1
      (evaluates (.binary 0 .div foo bar .int) (by simp [shown]))
    obtain ⟨q', ratio'⟩ := (integral_evaluates blocks_integral).1 (evaluates blocks (by simp [shown]))
    obtain ⟨j, second, nonzero⟩ := quotient_ok ratio
    obtain ⟨k, third, nonzero'⟩ := quotient_ok ratio'
    have bound : Integers d i j k := {
      foo := Environment.bindsInteger_dynamic.2 first
      bar := Environment.bindsInteger_dynamic.2 second
      blockSize := Environment.bindsInteger_dynamic.2 third }
    exact ⟨i, j, k, bound, nonzero, nonzero'⟩
  · rintro ⟨i, j, k, bound, nonzero, nonzero'⟩
    have first : foo.integer given = .ok i := bound.foo.read
    have second : bar.integer given = .ok j := bound.bar.read
    have third : blockSize.integer given = .ok k := bound.blockSize.read
    have whole {x : Item} {n : Int} (integral : x.Integral) (reckoned : x.integer given = .ok n) :
        ∃ v, evaluate x (.dynamic d) = .ok v := (integral_evaluates integral).2 ⟨n, reckoned⟩
    have unary (op : UnaryOperator) : (Item.unary 0 op foo .int).integer given = .ok (op.onInteger i) := by
      rw [Item.integer, first]
      rfl
    have binary {op : BinaryOperator} {l r : Item} {m n q : Int} (left : l.integer given = .ok m)
        (right : r.integer given = .ok n) (result : op.onIntegers m n = .ok q) :
        (Item.binary 0 op l r .int).integer given = .ok q := by
      rw [Item.integer, left, right]
      exact result
    have seven : (Item.int 7).integer given = .ok 7 := rfl
    have raised : (Item.binary 0 .add (.int 12345) blockSize .int).integer given = .ok (12345 + k) :=
      binary rfl third rfl
    have lowered : (Item.binary 0 .sub (.binary 0 .add (.int 12345) blockSize .int) (.int 1) .int).integer
        given = .ok (12345 + k - 1) := binary raised rfl rfl
    have count : blocks.integer given = .ok ((12345 + k - 1).tdiv k) := binary lowered third (if_neg nonzero')
    have counted := whole blocks_integral count
    simp only [shown, List.forall_mem_cons]
    exact ⟨whole f first, whole (.unary f) (unary .plus), whole (.unary f) (unary .negate),
      whole (.unary f) (unary .complement), whole (.binary (.int 7) f) (binary seven first rfl),
      whole (.binary f b) (binary first second rfl), whole (.binary f (.int 7)) (binary first seven rfl),
      whole (.binary f b) (binary first second (if_neg nonzero)),
      whole (.binary f (.int 7)) (binary first seven rfl), counted,
      pair_evaluates (whole (.placeholder 3 _) third) counted, List.forall_mem_nil _⟩

theorem run_shown {s : Settings} {c : Console} {e : Environment} (made : environment s = .ok e) {out : List String}
    {Passes : Prop} (each : ∀ p : Progress, ∃ q, shown.foldlM (showOne s e) p = .ok q ∧
      q.console.out = p.console.out ++ out ∧ (q.failures = 0 ↔ p.failures = 0 ∧ Passes)) :
    (run s c).console.out = c.out ++ out ∧ ((run s c).status = .ok 0 ↔ Passes) ∧
      ((run s c).status = .ok 0 ∨ (run s c).status = .ok 1) := by
  let report := Report.make (0 < s.verbose) Report.ampleLimit
  obtain ⟨q, ran, written, failures⟩ :=
    each ⟨{ c with err := c.err ++ report.info ("Environment: " ++ e.repr) }, report, 0⟩
  have ended : run s c =
      if q.failures ≠ 0 then ⟨.ok 1, q.console⟩
      else if s.check then ⟨.ok 0, { q.console with err := q.console.err ++ ["Looks plausible to me."] }⟩
      else ⟨.ok 0, q.console⟩ := by
    unfold run
    rw [made, showcase_eq]
    simp only [report] at ran
    simp only [ran]
  rw [ended]
  by_cases none : q.failures = 0
  · have passes := (failures.1 none).2
    cases s.check <;> simp [none, written, passes]
  · have fails : ¬ Passes := fun passes => none (failures.2 ⟨rfl, passes⟩)
    simp [none, written, fails]

theorem run_refused {s : Settings} (c : Console) (refused : s.Refused)
    (readable : ∀ t ∈ s.binds, ∀ f, readAssignment t ≠ .error (.unreadable f)) :
    (run s c).status = .ok 2 ∧ (run s c).console.out = c.out := by
  have reported (esc : Escape) (m : String) (failed : environment s = .error esc)
      (wording : esc.message? = some m) : (run s c).status = .ok 2 ∧ (run s c).console.out = c.out := by
    unfold run
    simp [failed, wording]
  rcases environment_exact s with ⟨-, ⟨t, among, e, unread, failed⟩ | ⟨n, failed⟩⟩ | ⟨open_, -⟩
  · cases e with
    | unreadable f => exact absurd unread (readable t among f)
    | incomplete text => exact reported _ _ failed rfl
    | notLiteral literal => exact reported _ _ failed rfl
  · exact reported _ _ failed rfl
  · exact absurd refused open_

theorem run_evaluates {s : Settings} (c : Console) (unchecked : s.check = false) {d : DynamicEnvironment}
    (tidy : Tidy d.cells) (made : environment s = .ok (flavored s.static d)) :
    (run s c).console.out = c.out ++ shown.filterMap (line (.dynamic d)) ∧
      ((run s c).status = .ok 0 ↔ ∃ i j k, Integers d i j k ∧ j ≠ 0 ∧ k ≠ 0) ∧
      ((run s c).status = .ok 0 ∨ (run s c).status = .ok 1) := by
  rw [← shown_evaluates]
  exact run_shown made (shown_each fun x among =>
    showOne_evaluates unchecked tidy (shown_entries x among))

theorem run_checks {s : Settings} (c : Console) (checked : s.check = true) {d : DynamicEnvironment}
    (made : environment s = .ok (flavored s.static d)) :
    (run s c).console.out = c.out ∧
      ((run s c).status = .ok 0 ↔ ∃ i j k, Integers d i j k) ∧
      ((run s c).status = .ok 0 ∨ (run s c).status = .ok 1) := by
  obtain ⟨out, ended⟩ := run_shown (c := c) made (shown_each fun x among =>
    showOne_checks checked (shown_entries x among))
  rw [← shown_fit]
  exact ⟨by simpa using out, ended⟩

theorem lines_flavored (static : Bool) (d : DynamicEnvironment) :
    shown.filterMap (line (flavored static d)) = shown.filterMap (line (.dynamic d)) :=
  List.filterMap_congr fun x among => line_flavored static (shown_entries x among)

/-- The run ends with 2 exactly where the settings are refused, and then it prints nothing. Otherwise both
flavors end alike and print the same lines, one for each expression that has a value. It is 0 that they end with
where all three names stand for integers and no division is by zero, and 1 elsewhere. A run that only checks
prints nothing and asks for the three integers alone. -/
theorem run_exact (s : Settings) (c : Console)
    (readable : ∀ t ∈ s.binds, ∀ f, readAssignment t ≠ .error (.unreadable f)) :
    ((run s c).status = .ok 2 ↔ s.Refused) ∧ (s.Refused → (run s c).console.out = c.out) ∧
      (¬ s.Refused → ∃ pairs d xs, s.pairs = .ok pairs ∧
        (∀ n, d.get? n = boundAfter (defaults ++ pairs) n) ∧ showcase = .ok xs ∧
        (∀ static, environment { s with static } = .ok (flavored static d)) ∧
        (s.check = false → ∀ static,
          (run { s with static } c).console.out = c.out ++ xs.filterMap (line (flavored static d)) ∧
          (run { s with static } c).console.out = (run s c).console.out ∧
          (run { s with static } c).status = (run s c).status ∧
          ((run s c).status = .ok 0 ↔ ∃ i j k, Integers d i j k ∧ j ≠ 0 ∧ k ≠ 0) ∧
          ((run s c).status = .ok 0 ∨ (run s c).status = .ok 1)) ∧
        (s.check = true →
          (run s c).console.out = c.out ∧
          ((run s c).status = .ok 0 ↔ ∃ i j k, Integers d i j k) ∧
          ((run s c).status = .ok 0 ∨ (run s c).status = .ok 1))) := by
  rcases environment_exact s with ⟨refused, -⟩ | ⟨free, pairs, d, read, represents, made⟩
  · obtain ⟨status, out⟩ := run_refused c refused readable
    exact ⟨⟨fun _ => refused, fun _ => status⟩, fun _ => out, fun free => absurd refused free⟩
  · have ending : (run s c).status = .ok 0 ∨ (run s c).status = .ok 1 := by
      cases check : s.check with
      | false => exact (run_evaluates c check represents.tidy (made s.static)).2.2
      | true => exact (run_checks c check (made s.static)).2.2
    have other : (run s c).status ≠ .ok 2 := by
      rcases ending with status | status <;> simp [status]
    refine ⟨⟨fun two => absurd two other, fun refused => absurd refused free⟩,
      fun refused => absurd refused free, fun _ => ⟨pairs, d, shown, read, represents.get, showcase_eq, made,
        fun unchecked static => ?_, fun checked => run_checks c checked (made s.static)⟩⟩
    obtain ⟨out, zero, ended⟩ := run_evaluates c unchecked represents.tidy (made s.static)
    obtain ⟨out', zero', ended'⟩ := run_evaluates (s := { s with static }) c unchecked represents.tidy
      (made static)
    refine ⟨by rw [out', lines_flavored], out'.trans out.symm, ?_, zero, ended⟩
    by_cases passes : (run s c).status = .ok 0
    · exact (zero'.2 (zero.1 passes)).trans passes.symm
    · have fails : (run { s with static } c).status ≠ .ok 0 := fun passes' => passes (zero.2 (zero'.1 passes'))
      exact (ended'.resolve_left fails).trans (ended.resolve_left passes).symm

end CommandLine

end

namespace CommandLine

set_option maxRecDepth 4000 in
theorem readAssignment_none : readAssignment "bar=None" = .ok ("bar", .none) := by
  have value : Literal.read ['N', 'o', 'n', 'e'] = .ok .none := rfl
  have name : Text.trim ['b', 'a', 'r'] = ['b', 'a', 'r'] := by decide
  have literal : Text.trim ['N', 'o', 'n', 'e'] = ['N', 'o', 'n', 'e'] := by decide
  simp [readAssignment, name, literal, value]

theorem run_exact_erased :
    let s : Settings := { binds := ["bar=None"] }
    let c : Console := { dice := ⟨[0], 0⟩ }
    (∀ t ∈ s.binds, ∀ f, readAssignment t ≠ .error (.unreadable f)) ∧ ¬ s.Refused ∧
      (run s c).status = .ok 1 ∧ (run { s with static := true } c).status = .ok 1 ∧
      (run { s with static := true } c).console.out = (run s c).console.out := by
  intro s c
  have readable : ∀ t ∈ s.binds, ∀ f, readAssignment t ≠ .error (.unreadable f) := by
    intro t among f
    rw [List.mem_singleton.1 among, readAssignment_none]
    exact nofun
  have pairs : s.pairs = .ok [("bar", .none)] := by
    have parsed : s.binds.mapM readAssignment = .ok [("bar", .none)] :=
      mapM_ok.2 (.cons readAssignment_none .nil)
    rw [Settings.pairs, parsed]
    rfl
  have bound : boundAfter defaults "bar" = some (.int 7) := rfl
  have free : ¬ s.Refused := by
    rintro (⟨t, among, e, unread⟩ | ⟨others, read, blocked⟩)
    · rw [List.mem_singleton.1 among, readAssignment_none] at unread
      cases unread
    · cases pairs.symm.trans read
      rcases blocked_cons.1 blocked with ⟨-, unbound⟩ | later
      · rw [bound] at unbound
        cases unbound
      · exact not_blocked_nil _ later
  obtain ⟨-, -, results⟩ := run_exact s c readable
  obtain ⟨given, d, xs, read, binds, -, -, ends, -⟩ := results free
  obtain ⟨-, out, status, zero, ended⟩ := ends rfl true
  cases pairs.symm.trans read
  have erased : d.get? "bar" = none := binds "bar"
  have one : (run s c).status = .ok 1 := by
    refine ended.resolve_left fun passes => ?_
    obtain ⟨_, _, _, bound, -⟩ := zero.1 passes
    obtain ⟨w, found, -⟩ := bound.bar.value
    simp [Environment.get, Environment.get?, erased] at found
  exact ⟨readable, free, one, status.trans one, out⟩

end CommandLine

end Deferred
