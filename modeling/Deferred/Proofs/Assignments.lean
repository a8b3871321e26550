import Mathlib.Data.List.TakeWhile
import Deferred.Proofs.Demonstration
import Deferred.Proofs.Reading

-- What is read from an assignment, and what becomes of a run whose assignments cannot be read.

set_option autoImplicit false

namespace Deferred

open Outcome

namespace Text

theorem trimLeft_first (cs : List Char) : ∀ c ∈ (trimLeft cs).head?, isBlank c = false := by
  intro c first
  have kept := List.head?_dropWhile_not isBlank cs
  rw [trimLeft] at first
  rw [Option.mem_def.1 first] at kept
  exact kept

theorem trimRight_initial (cs : List Char) : trimRight cs <+: cs := by
  rw [← List.reverse_suffix, trimRight, List.reverse_reverse]
  exact List.dropWhile_suffix _

theorem trim_first (cs : List Char) : ∀ c ∈ (trim cs).head?, isBlank c = false := by
  intro c first
  obtain ⟨rest, whole⟩ := trimRight_initial (trimLeft cs)
  refine trimLeft_first cs c ?_
  rw [← whole, List.head?_append]
  rw [trim] at first
  rw [Option.mem_def.1 first]
  rfl

theorem trim_last (cs : List Char) : ∀ c ∈ (trim cs).getLast?, isBlank c = false := by
  rw [trim, trimRight, List.getLast?_reverse]
  exact trimLeft_first _

theorem trim_subset (cs : List Char) : trim cs ⊆ cs :=
  List.Subset.trans (trimRight_initial _).subset (List.dropWhile_suffix _).subset

end Text

namespace CommandLine

/-- Not empty, without an equals sign, and with no blanks on either side. -/
structure Named (n : String) : Prop where
  filled : n ≠ ""
  unsplit : '=' ∉ n.toList
  first : ∀ c ∈ n.toList.head?, Text.isBlank c = false
  last : ∀ c ∈ n.toList.getLast?, Text.isBlank c = false

/-- The first equals sign of the text has the name before it, among blanks, and the literal after it. -/
structure Assigns (text n : String) (literal : List Char) : Prop where
  split : ∃ before, text.toList = before ++ '=' :: literal ∧ '=' ∉ before ∧ n.toList = Text.trim before
  filled : n ≠ ""

theorem Assigns.named {text n : String} {literal : List Char} (assigns : Assigns text n literal) : Named n := by
  obtain ⟨before, -, unsplit, name⟩ := assigns.split
  refine ⟨assigns.filled, ?_, ?_, ?_⟩ <;> rw [name]
  · exact fun among => unsplit (Text.trim_subset before among)
  · exact Text.trim_first before
  · exact Text.trim_last before

theorem takeWhile_split {text : String} {before literal : List Char}
    (whole : text.toList = before ++ '=' :: literal) (unsplit : '=' ∉ before) :
    text.toList.takeWhile (· ≠ '=') = before := by
  have passed : ∀ c ∈ before, decide (c ≠ '=') = true := by
    intro c among
    exact decide_eq_true fun same => unsplit (same ▸ among)
  rw [whole, List.takeWhile_append_of_pos passed, List.takeWhile_cons_of_neg (by simp), List.append_nil]

theorem Assigns.unique {text n m : String} {literal others : List Char} (assigns : Assigns text n literal)
    (assigns' : Assigns text m others) : n = m ∧ literal = others := by
  obtain ⟨before, whole, unsplit, name⟩ := assigns.split
  obtain ⟨before', whole', unsplit', name'⟩ := assigns'.split
  have same : before = before' := (takeWhile_split whole unsplit).symm.trans (takeWhile_split whole' unsplit')
  subst same
  refine ⟨String.toList_inj.1 (name.trans name'.symm), ?_⟩
  exact (List.cons.inj (List.append_cancel_left (whole.symm.trans whole'))).2

section

variable [Host]

def finish (n : String) (literal : List Char) : Except AssignmentError (String × Item) :=
  match Literal.read (Text.trim literal) with
  | .ok x => .ok (n, x)
  | .error .malformed => .error (.notLiteral (String.ofList literal))
  | .error f => .error (.unreadable f)

theorem readAssignment_split {text : String} {before literal : List Char}
    (whole : text.toList = before ++ '=' :: literal) (unsplit : '=' ∉ before) :
    readAssignment text =
      if (Text.trim before).isEmpty then .error (.incomplete text)
      else finish (String.ofList (Text.trim before)) literal := by
  have taken := takeWhile_split whole unsplit
  unfold readAssignment
  simp only [taken]
  rw [whole, List.drop_left]
  rfl

theorem readAssignment_assigns {text n : String} {literal : List Char} (assigns : Assigns text n literal) :
    readAssignment text = finish n literal := by
  obtain ⟨before, whole, unsplit, name⟩ := assigns.split
  have filled : ¬ (Text.trim before).isEmpty := by
    rw [← name]
    simpa using assigns.filled
  rw [readAssignment_split whole unsplit, if_neg filled, ← name, String.ofList_toList]

theorem readAssignment_incomplete {text : String} (free : ∀ n literal, ¬ Assigns text n literal) :
    readAssignment text = .error (.incomplete text) := by
  by_cases split : '=' ∈ text.toList
  · obtain ⟨before, literal, whole, unsplit⟩ := List.eq_append_cons_of_mem split
    rw [readAssignment_split whole unsplit]
    refine if_pos (by_contra fun filled => ?_)
    refine free (String.ofList (Text.trim before)) literal ⟨⟨before, whole, unsplit, by simp⟩, fun empty => ?_⟩
    exact filled (by simpa using congrArg String.toList empty)
  · have taken : text.toList.takeWhile (· ≠ '=') = text.toList := by
      rw [List.takeWhile_eq_self_iff]
      intro c among
      exact decide_eq_true fun same => split (same ▸ among)
    unfold readAssignment
    simp only [taken]
    rw [List.drop_length]

/-- What is read from a text. -/
inductive Reads (text : String) : Except AssignmentError (String × Item) → Prop
  | pair {n : String} {literal : List Char} {v : Item} (assigns : Assigns text n literal)
      (read : Literal.read (Text.trim literal) = .ok v) : Reads text (.ok (n, v))
  | incomplete (free : ∀ n literal, ¬ Assigns text n literal) : Reads text (.error (.incomplete text))
  | notLiteral {n : String} {literal : List Char} (assigns : Assigns text n literal)
      (malformed : Literal.read (Text.trim literal) = .error .malformed) :
      Reads text (.error (.notLiteral (String.ofList literal)))
  | unreadable {n : String} {literal : List Char} {f : Literal.ReadFault} (assigns : Assigns text n literal)
      (failed : Literal.read (Text.trim literal) = .error f) (formed : f ≠ .malformed) :
      Reads text (.error (.unreadable f))

theorem readAssignment_reads (text : String) : Reads text (readAssignment text) := by
  by_cases free : ∀ n literal, ¬ Assigns text n literal
  · rw [readAssignment_incomplete free]
    exact .incomplete free
  · simp only [not_forall, not_not] at free
    obtain ⟨n, literal, assigns⟩ := free
    rw [readAssignment_assigns assigns, finish]
    cases read : Literal.read (Text.trim literal) with
    | ok v => exact .pair assigns read
    | error f =>
      cases f with
      | malformed => exact .notLiteral assigns read
      | unhashable => exact .unreadable assigns read nofun
      | overflow => exact .unreadable assigns read nofun

theorem Reads.readAssignment {text : String} {r : Except AssignmentError (String × Item)} (reads : Reads text r) :
    readAssignment text = r := by
  cases reads with
  | pair assigns read => rw [readAssignment_assigns assigns, finish, read]
  | incomplete free => exact readAssignment_incomplete free
  | notLiteral assigns malformed => rw [readAssignment_assigns assigns, finish, malformed]
  | @unreadable _ _ f assigns failed formed =>
    rw [readAssignment_assigns assigns, finish, failed]
    cases f with
    | malformed => exact absurd rfl formed
    | unhashable | overflow => rfl

def Unread (texts : List String) (e : AssignmentError) : Prop :=
  ∃ before text after, texts = before ++ text :: after ∧
    (∀ t ∈ before, ∃ p, readAssignment t = .ok p) ∧ readAssignment text = .error e

theorem pairs_unread {s : Settings} {e : AssignmentError} : s.pairs = .error e ↔ Unread s.binds e :=
  map_error.trans mapM_error

theorem run_unread {s : Settings} (c : Console) {e : AssignmentError} (unread : Unread s.binds e) :
    run s c =
      match e.message? with
      | some m => ⟨.ok 2, { c with err := c.err ++ [m] }⟩
      | none => ⟨.error (.assignment e), c⟩ := by
  unfold run
  rw [environment_unread (pairs_unread.2 unread)]
  rfl

theorem run_read {s : Settings} (c : Console) {pairs : List (String × Item)} (read : s.pairs = .ok pairs) :
    ∃ k ≤ 2, (run s c).status = .ok k := by
  obtain ⟨given, parsed, -⟩ := map_ok.1 read
  rcases environment_exact s with
    ⟨-, ⟨t, among, e, unread, -⟩ | ⟨n, failed⟩⟩ | ⟨-, _, d, -, represents, made⟩
  · obtain ⟨p, done⟩ := mapM_each parsed t among
    cases unread.symm.trans done
  · refine ⟨2, le_rfl, ?_⟩
    unfold run
    rw [failed]
    rfl
  · have ended : (run s c).status = .ok 0 ∨ (run s c).status = .ok 1 := by
      cases check : s.check with
      | false => exact (run_evaluates c check represents.tidy (made s.static)).2.2
      | true => exact (run_checks c check (made s.static)).2.2
    rcases ended with status | status
    · exact ⟨0, by omega, status⟩
    · exact ⟨1, by omega, status⟩

theorem run_answers {s : Settings} {c : Console} (readable : ∀ f, ¬ Unread s.binds (.unreadable f)) :
    ∃ k ≤ 2, (run s c).status = .ok k := by
  cases read : s.pairs with
  | ok pairs => exact run_read c read
  | error e =>
    have unread := pairs_unread.1 read
    cases e with
    | incomplete text | notLiteral literal => exact ⟨2, le_rfl, by rw [run_unread c unread]; rfl⟩
    | unreadable f => exact absurd unread (readable f)

theorem run_ended {s : Settings} {c : Console} {k : Nat} (ended : (run s c).status = .ok k) :
    k ≤ 2 ∧ ∀ f, ¬ Unread s.binds (.unreadable f) := by
  have readable : ∀ f, ¬ Unread s.binds (.unreadable f) := by
    intro f unread
    rw [run_unread c unread] at ended
    cases ended
  obtain ⟨j, small, ended'⟩ := run_answers (c := c) readable
  cases ended.symm.trans ended'
  exact ⟨small, readable⟩

-- All that the run has to write can be written out: what the names are bound to, and what its expressions
-- come to.
def Settings.Legible (s : Settings) : Prop :=
  ∀ e, environment s = .ok e → (∀ b ∈ e.bindings, b.value.isWritable) ∧
    ∀ xs, showcase = .ok xs → ∀ x ∈ xs, ∀ v, evaluate x e = .ok v → v.isWritable

-- Some part of the value is at fault, though the text has the form of an assignment.
def Blamed (text : String) (f : Literal.ReadFault) : Prop :=
  ∃ n literal, Assigns text n literal ∧ Literal.Blames (Text.trim literal) f

theorem unreadable_blamed {text : String} {f : Literal.ReadFault}
    (failed : readAssignment text = .error (.unreadable f)) : Blamed text f := by
  have reads := readAssignment_reads text
  rw [failed] at reads
  cases reads with
  | unreadable assigns failed formed => exact ⟨_, _, assigns, Literal.read_blames failed formed⟩

theorem read_blameless {text n : String} {v : Item} (done : readAssignment text = .ok (n, v)) :
    Named n ∧ ∀ f, ¬ Blamed text f := by
  have reads := readAssignment_reads text
  rw [done] at reads
  cases reads with
  | pair assigns read =>
    refine ⟨assigns.named, ?_⟩
    rintro f ⟨m, others, assigns', blames⟩
    obtain ⟨-, rfl⟩ := assigns.unique assigns'
    exact Literal.read_blameless read f blames

-- The text is read as a pair, or it is refused with a wording.
def Answered (text : String) : Prop :=
  (∃ p, readAssignment text = .ok p) ∨ ∃ e m, readAssignment text = .error e ∧ e.message? = some m

theorem answered {text : String} (blameless : ∀ f, ¬ Blamed text f) : Answered text := by
  cases read : readAssignment text with
  | ok p => exact .inl ⟨p, read⟩
  | error e =>
    cases e with
    | incomplete | notLiteral => exact .inr ⟨_, _, read, rfl⟩
    | unreadable f => exact absurd (unreadable_blamed read) (blameless f)

/-- An assignment is read as a name and the value after it, or it is refused with a wording, unless a part of
the value is to blame: then it is never read. A fault of a part has no wording. Where it is what keeps the first
text from being read that cannot be, it escapes from the run; and a run ends with 0, 1 or 2 where there is no
such text and it can write out what it has to. -/
theorem faults_escape (text : String) (s : Settings) (c : Console) :
    (∀ r, readAssignment text = r ↔ Reads text r) ∧
      (∀ n v, readAssignment text = .ok (n, v) → Named n ∧ ∀ f, ¬ Blamed text f) ∧
      (∀ f, readAssignment text = .error (.unreadable f) → Blamed text f) ∧
      ((∀ f, ¬ Blamed text f) → Answered text) ∧
      (∀ k, (run s c).status = .ok k → k ≤ 2 ∧ ∀ f, ¬ Unread s.binds (.unreadable f)) ∧
      (s.Legible → (∀ f, ¬ Unread s.binds (.unreadable f)) → ∃ k ≤ 2, (run s c).status = .ok k) ∧
      (∀ e m, Unread s.binds e → e.message? = some m →
        run s c = ⟨.ok 2, { c with err := c.err ++ [m] }⟩) ∧
      ∀ f, Unread s.binds (.unreadable f) →
        run s c = ⟨.error (.assignment (.unreadable f)), c⟩ ∧ ∃ t ∈ s.binds, Blamed t f := by
  refine ⟨fun r => ⟨?_, Reads.readAssignment⟩, fun _ _ => read_blameless, fun _ => unreadable_blamed, answered,
    fun _ => run_ended, fun _ => run_answers, fun e m unread wording => ?_, fun f unread => ⟨run_unread c unread, ?_⟩⟩
  · rintro rfl
    exact readAssignment_reads text
  · rw [run_unread c unread, wording]
  · obtain ⟨before, t, after, split, -, failed⟩ := unread
    exact ⟨t, by simp [split], unreadable_blamed failed⟩

end

set_option maxRecDepth 4000 in
theorem readAssignment_set : readAssignment "x=\x7b[]\x7d" = .error (.unreadable .unhashable) := by
  have assigns : Assigns "x=\x7b[]\x7d" "x" ['\x7b', '[', ']', '\x7d'] :=
    ⟨⟨['x'], rfl, by decide, by decide⟩, by decide⟩
  have trimmed : Text.trim ['\x7b', '[', ']', '\x7d'] = ['\x7b', '[', ']', '\x7d'] := by decide
  have read : Literal.read ['\x7b', '[', ']', '\x7d'] = .error .unhashable := rfl
  exact (Reads.unreadable assigns (trimmed ▸ read) (by decide)).readAssignment

theorem legible_defaults : Settings.Legible {} := by
  intro e made
  have known : environment {} = .ok (.dynamic ⟨defaults⟩) := rfl
  cases known.symm.trans made
  refine ⟨by decide, fun xs shows => ?_⟩
  cases showcase_eq.symm.trans shows
  have values : ∀ x ∈ shown, ((evaluate x (.dynamic ⟨defaults⟩)).toOption.map Item.isWritable).getD true := by
    decide +kernel
  intro x among v done
  have written := values x among
  rwa [done] at written

theorem faults_escape_set :
    let s : Settings := { binds := ["bar=None", "x=\x7b[]\x7d"] }
    let c : Console := { dice := ⟨[0], 0⟩ }
    Named "bar" ∧ Answered "bar=None" ∧ Blamed "x=\x7b[]\x7d" .unhashable ∧
      run s c = ⟨.error (.assignment (.unreadable .unhashable)), c⟩ ∧ ∃ k ≤ 2, (run {} c).status = .ok k := by
  intro s c
  obtain ⟨-, read, -, answers, -⟩ := faults_escape "bar=None" s c
  obtain ⟨-, -, blames, -, -, -, -, escapes⟩ := faults_escape "x=\x7b[]\x7d" s c
  obtain ⟨-, -, -, -, -, ends, -⟩ := faults_escape "bar=None" {} c
  obtain ⟨named, blameless⟩ := read _ _ readAssignment_none
  have first : Unread s.binds (.unreadable .unhashable) := by
    refine ⟨["bar=None"], _, [], rfl, ?_, readAssignment_set⟩
    intro t among
    rw [List.mem_singleton.1 among]
    exact ⟨_, readAssignment_none⟩
  have none : ∀ f, ¬ Unread [] (.unreadable f) := by
    rintro f ⟨before, text, after, split, -⟩
    simp at split
  exact ⟨named, answers blameless, blames _ readAssignment_set, (escapes _ first).1, ends legible_defaults none⟩

theorem run_escaped :
    (readAssignment "x=\x7b[]\x7d" = .error (.unreadable .unhashable) ∧
      (AssignmentError.unreadable .unhashable).message? = none) ∧
      (run { binds := ["x=\x7b[]\x7d"] } { dice := ⟨[0], 0⟩ }).status =
        .error (.assignment (.unreadable .unhashable)) := by
  refine ⟨⟨readAssignment_set, rfl⟩, ?_⟩
  rw [run_unread (s := { binds := ["x=\x7b[]\x7d"] }) _ ⟨[], _, [], rfl, nofun, readAssignment_set⟩]
  rfl

end CommandLine

end Deferred
