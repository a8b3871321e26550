import Deferred.CommandLine.Run
import Deferred.Proofs.Changes
import Deferred.Proofs.Dependence

-- The environment that the arguments ask for, in either flavor.

set_option autoImplicit false

namespace Deferred

open Outcome

namespace CommandLine

def kept : Item → Option Item
  | .none => none
  | w => some w

def changeOf (p : String × Item) : Change :=
  match p.2 with
  | .none => .erase p.1
  | w => .set p.1 w

-- What a name is bound to, once the pairs have been applied in order.
def boundAfter (pairs : List (String × Item)) (n : String) : Option Item :=
  (pairs.reverse.lookup n).bind kept

-- Some pair erases a name that is not bound by then.
def Blocked (history pairs : List (String × Item)) : Prop :=
  ∃ earlier n later, pairs = earlier ++ (n, .none) :: later ∧ boundAfter (history ++ earlier) n = none

def flavored (static : Bool) (d : DynamicEnvironment) : Environment :=
  if static then .static d.toStatic else .dynamic d

def alter (d : DynamicEnvironment) (p : String × Item) : Except Failure DynamicEnvironment :=
  ((changeOf p).outcome d.cells).map DynamicEnvironment.mk

/-- The environment binds what the pairs applied so far have left bound. -/
structure Represents (d : DynamicEnvironment) (history : List (String × Item)) : Prop where
  tidy : Tidy d.cells
  get n : d.get? n = boundAfter history n

theorem boundAfter_snoc (pairs : List (String × Item)) (p : String × Item) (n : String) :
    boundAfter (pairs ++ [p]) n = if n = p.1 then kept p.2 else boundAfter pairs n := by
  unfold boundAfter
  rw [List.reverse_append, List.reverse_singleton, List.singleton_append, List.lookup_cons]
  by_cases same : n = p.1
  · simp [same]
  · simp [same, beq_false_of_ne same]

theorem not_blocked_nil (history : List (String × Item)) : ¬ Blocked history [] := by
  rintro ⟨earlier, n, later, parts, -⟩
  simp at parts

theorem blocked_cons {history pairs : List (String × Item)} {p : String × Item} :
    Blocked history (p :: pairs) ↔
      p.2 = .none ∧ boundAfter history p.1 = none ∨ Blocked (history ++ [p]) pairs := by
  constructor
  · rintro ⟨earlier, n, later, parts, unbound⟩
    cases earlier with
    | nil =>
      obtain ⟨rfl, rfl⟩ := List.cons.inj parts
      exact .inl ⟨rfl, by simpa using unbound⟩
    | cons q earlier =>
      obtain ⟨rfl, rest⟩ := List.cons.inj parts
      exact .inr ⟨earlier, n, later, rest, by simpa using unbound⟩
  · rintro (⟨erases, unbound⟩ | ⟨earlier, n, later, rfl, unbound⟩)
    · obtain ⟨n, w⟩ := p
      obtain rfl : w = .none := erases
      exact ⟨[], n, pairs, rfl, by simpa using unbound⟩
    · exact ⟨p :: earlier, n, later, rfl, by simpa using unbound⟩

namespace Represents

variable {d : DynamicEnvironment} {history : List (String × Item)} {p : String × Item}

theorem bound_iff (represents : Represents d history) (n : String) :
    n ∈ d.cells.map Prod.fst ↔ boundAfter history n ≠ none := by
  rw [← represents.get, ← Option.isSome_iff_ne_none, DynamicEnvironment.get?, List.lookup_isSome_iff]
  simp

theorem erase (represents : Represents d history) {n : String} (bound : boundAfter history n ≠ none) :
    ∃ next, alter d (n, .none) = .ok next ∧ Represents next (history ++ [(n, .none)]) := by
  have taken : (Change.erase n).outcome d.cells = .ok (d.without n) := if_pos ((represents.bound_iff n).2 bound)
  refine ⟨⟨d.without n⟩, by rw [alter, changeOf, taken]; rfl, represents.tidy.without n, fun m => ?_⟩
  rw [boundAfter_snoc]
  split
  next same => rw [same, d.get?_without_self]; rfl
  next apart => rw [d.get?_without apart, represents.get]

theorem set (represents : Represents d history) {n : String} {w : Item} (filled : n ≠ "")
    (binds : kept w = some w) : ∃ next, alter d (n, w) = .ok next ∧ Represents next (history ++ [(n, w)]) := by
  have change : changeOf (n, w) = .set n w := by cases w <;> first | rfl | cases binds
  have taken : (Change.set n w).outcome d.cells = .ok (d.without n ++ [(n, w)]) := if_neg filled
  refine ⟨⟨d.without n ++ [(n, w)]⟩, by rw [alter, change, taken]; rfl, represents.tidy.set filled w, fun m => ?_⟩
  rw [boundAfter_snoc, DynamicEnvironment.get?]
  split
  next same =>
    have erased : (d.without n).lookup m = none := same ▸ d.get?_without_self n
    rw [List.lookup_append, erased, binds]
    simp [same]
  next apart =>
    rw [lookup_append_singleton _ _ apart, ← represents.get]
    exact d.get?_without apart

theorem step (represents : Represents d history) (filled : p.1 ≠ "") :
    (p.2 = .none ∧ boundAfter history p.1 = none ∧ alter d p = .error (.unbound p.1)) ∨
      ¬ (p.2 = .none ∧ boundAfter history p.1 = none) ∧
        ∃ next, alter d p = .ok next ∧ Represents next (history ++ [p]) := by
  obtain ⟨n, w⟩ := p
  by_cases erases : w = .none
  · subst erases
    by_cases bound : boundAfter history n = none
    · have failed : (Change.erase n).outcome d.cells = .error (.unbound n) :=
        if_neg fun among => (represents.bound_iff n).1 among bound
      exact .inl ⟨rfl, bound, by rw [alter, changeOf, failed]; rfl⟩
    · exact .inr ⟨fun both => bound both.2, represents.erase bound⟩
  · have binds : kept w = some w := by cases w <;> first | rfl | exact absurd rfl erases
    exact .inr ⟨fun both => erases both.1, represents.set filled binds⟩

theorem run {pairs : List (String × Item)} (represents : Represents d history)
    (filled : ∀ p ∈ pairs, p.1 ≠ "") :
    (Blocked history pairs ∧ ∃ n, pairs.foldlM alter d = .error (.unbound n)) ∨
      ¬ Blocked history pairs ∧ ∃ last, pairs.foldlM alter d = .ok last ∧ Represents last (history ++ pairs) := by
  induction pairs generalizing d history with
  | nil => exact .inr ⟨not_blocked_nil history, d, rfl, by simpa using represents⟩
  | cons p pairs ih =>
    rw [blocked_cons, List.foldlM_cons]
    rcases represents.step (filled p (by simp)) with ⟨erases, unbound, failed⟩ | ⟨free, next, altered, after⟩
    · exact .inl ⟨.inl ⟨erases, unbound⟩, p.1, by rw [failed]; rfl⟩
    · rw [altered]
      have rest := ih after fun q among => filled q (List.mem_cons_of_mem _ among)
      rw [List.append_assoc, List.singleton_append] at rest
      rcases rest with ⟨blocked, stopped⟩ | ⟨open_, last, done, represents'⟩
      · exact .inl ⟨.inr blocked, stopped⟩
      · exact .inr ⟨fun blocked => blocked.elim free open_, last, done, represents'⟩

end Represents

theorem alter_tidy {d next : DynamicEnvironment} {p : String × Item} (tidy : Tidy d.cells)
    (altered : alter d p = .ok next) : Tidy next.cells := by
  obtain ⟨cells, taken, rfl⟩ := map_ok.1 altered
  exact tidy.outcome taken

theorem defaults_represented : Represents ⟨defaults⟩ defaults where
  tidy := ⟨by decide, by decide⟩
  get n := by
    have turned : defaults.reverse.lookup n = defaults.lookup n := by
      simp only [defaults, List.reverse_cons, List.reverse_nil, List.nil_append, List.cons_append,
        List.lookup_cons, List.lookup_nil]
      grind
    rw [boundAfter, turned, DynamicEnvironment.get?]
    cases found : defaults.lookup n with
    | none => rfl
    | some w =>
      have among : (n, w) ∈ defaults := mem_of_lookup found
      simp only [defaults, List.mem_cons, Prod.mk.injEq, List.not_mem_nil, or_false] at among
      rcases among with ⟨-, rfl⟩ | ⟨-, rfl⟩ | ⟨-, rfl⟩ <;> rfl

section

variable [Host]

-- The pairs that the settings ask for, in order: those that are written out, then the block size.
def Settings.pairs (s : Settings) : Except AssignmentError (List (String × Item)) :=
  (s.binds.mapM readAssignment).map fun given =>
    given ++ (s.blockSize.map fun n => ("block_size", Item.int n)).toList

theorem rebind_eq (e : Environment) (p : String × Item) : rebind e p.1 p.2 = e.change (changeOf p) := by
  obtain ⟨n, w⟩ := p
  cases w <;> rfl

theorem rebind_flavored (static : Bool) {d : DynamicEnvironment} (tidy : Tidy d.cells)
    (p : String × Item) : rebind (flavored static d) p.1 p.2 = (alter d p).map (flavored static) := by
  rw [rebind_eq, alter, map_map]
  cases static with
  | false => exact dynamic_change d.cells (changeOf p)
  | true => exact static_change tidy (changeOf p)

theorem rebinds_flavored (static : Bool) {d : DynamicEnvironment} (tidy : Tidy d.cells)
    (pairs : List (String × Item)) :
    pairs.foldlM (fun e p => rebind e p.1 p.2) (flavored static d) =
      (pairs.foldlM alter d).map (flavored static) := by
  induction pairs generalizing d with
  | nil => rfl
  | cons p pairs ih =>
    rw [List.foldlM_cons, List.foldlM_cons, rebind_flavored static tidy]
    cases altered : alter d p with
    | error f => rfl
    | ok next => exact ih (alter_tidy tidy altered)

theorem readAssignment_filled {text : String} {p : String × Item} (read : readAssignment text = .ok p) :
    p.1 ≠ "" := by
  unfold readAssignment at read
  dsimp only at read
  split at read
  next => cases read
  next =>
    split at read
    next => cases read
    next filled =>
      split at read
      next =>
        cases read
        exact fun empty => filled (by simpa using congrArg String.toList empty)
      next => cases read
      next => cases read

theorem pairs_filled {s : Settings} {pairs : List (String × Item)} (read : s.pairs = .ok pairs) :
    ∀ p ∈ pairs, p.1 ≠ "" := by
  obtain ⟨given, parsed, rfl⟩ := map_ok.1 read
  intro p among
  rcases List.mem_append.1 among with written | shorthand
  · obtain ⟨t, -, done⟩ := mapM_source parsed p written
    exact readAssignment_filled done
  · obtain ⟨n, -, rfl⟩ : ∃ n, s.blockSize = some n ∧ ("block_size", Item.int n) = p := by
      simpa using shorthand
    simp

-- Some text cannot be read as a pair, or some pair erases what is not bound.
def Settings.Refused (s : Settings) : Prop :=
  (∃ t ∈ s.binds, ∃ e, readAssignment t = .error e) ∨ ∃ pairs, s.pairs = .ok pairs ∧ Blocked defaults pairs

theorem initial_flavored (static : Bool) : initial static = .ok (flavored static ⟨defaults⟩) := by
  cases static <;> rfl

theorem environment_unread {s : Settings} {e : AssignmentError} (unread : s.pairs = .error e) :
    environment s = .error (.assignment e) := by
  unfold environment
  rw [initial_flavored, map_error.1 unread]
  rfl

theorem environment_read {s : Settings} {pairs : List (String × Item)} (read : s.pairs = .ok pairs) :
    environment s = ((pairs.foldlM alter ⟨defaults⟩).map (flavored s.static)).mapError .failure := by
  obtain ⟨given, parsed, rfl⟩ := map_ok.1 read
  unfold environment
  rw [initial_flavored, parsed, ← rebinds_flavored s.static defaults_represented.tidy]
  rfl

theorem environment_exact (s : Settings) :
    (s.Refused ∧ ((∃ t ∈ s.binds, ∃ e, readAssignment t = .error e ∧ environment s = .error (.assignment e)) ∨
        ∃ n, environment s = .error (.failure (.unbound n)))) ∨
      ¬ s.Refused ∧ ∃ pairs d, s.pairs = .ok pairs ∧ Represents d (defaults ++ pairs) ∧
        ∀ static, environment { s with static } = .ok (flavored static d) := by
  cases read : s.pairs with
  | error e =>
    obtain ⟨t, among, unread⟩ := mapM_culprit (map_error.1 read)
    exact .inl ⟨.inl ⟨t, among, e, unread⟩, .inl ⟨t, among, e, unread, environment_unread read⟩⟩
  | ok pairs =>
    rcases defaults_represented.run (pairs_filled read) with ⟨blocked, n, stopped⟩ | ⟨free, d, done, represents⟩
    · exact .inl ⟨.inr ⟨pairs, read, blocked⟩, .inr ⟨n, by rw [environment_read read, stopped]; rfl⟩⟩
    · refine .inr ⟨?_, pairs, d, rfl, represents, fun static => ?_⟩
      · rintro (⟨t, among, e, unread⟩ | ⟨others, read', blocked⟩)
        · obtain ⟨given, parsed, -⟩ := map_ok.1 read
          obtain ⟨p, done'⟩ := mapM_each parsed t among
          cases unread.symm.trans done'
        · cases read.symm.trans read'
          exact free blocked
      · have same : Settings.pairs { s with static } = .ok pairs := read
        rw [environment_read same, done]
        rfl

end

end CommandLine

end Deferred
