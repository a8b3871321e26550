import Deferred.Literal
import Deferred.Proofs.Outcome

-- Why a literal cannot be read. Where it is not that the text is malformed, some part of it is to blame.

set_option autoImplicit false

namespace Deferred.Literal

open Outcome

namespace Phrase

def isBracketed : Phrase → Bool
  | tuple _ | list _ | set _ | dict _ => true
  | _ => false

@[elab_as_elim]
theorem bracketing {motive : Phrase → Prop}
    (bare : ∀ p, p.isBracketed = false → motive p)
    (tuple : ∀ ps, (∀ p ∈ ps, motive p) → motive (.tuple ps))
    (list : ∀ ps, (∀ p ∈ ps, motive p) → motive (.list ps))
    (set : ∀ ps, (∀ p ∈ ps, motive p) → motive (.set ps))
    (dict : ∀ ps, (∀ p ∈ ps, motive p) → motive (.dict ps)) : ∀ p, motive p
  | .tuple ps => tuple ps fun p _ => bracketing bare tuple list set dict p
  | .list ps => list ps fun p _ => bracketing bare tuple list set dict p
  | .set ps => set ps fun p _ => bracketing bare tuple list set dict p
  | .dict ps => dict ps fun p _ => bracketing bare tuple list set dict p
  | .constant _ | .positive _ | .negative _ | .plus .. | .minus .. | .emptySet | .name _ | .other =>
    bare _ rfl

def pairsOf : List Phrase → List (Phrase × Phrase)
  | k :: v :: ps => (k, v) :: pairsOf ps
  | _ => []

theorem pairsOf_subset (ps : List Phrase) : ∀ e ∈ pairsOf ps, e.1 ∈ ps ∧ e.2 ∈ ps := by
  induction ps using pairsOf.induct with
  | case1 k v ps ih =>
    intro e among
    rcases List.mem_cons.1 among with rfl | among
    · simp
    · obtain ⟨key, result⟩ := ih e among
      simp [key, result]
  | case2 ps short => simp [pairsOf]

/-- A phrase, or what stands at any depth within its brackets. -/
inductive Part (q : Phrase) : Phrase → Prop
  | self : Part q q
  | tuple {p : Phrase} {ps : List Phrase} (among : p ∈ ps) (within : Part q p) : Part q (.tuple ps)
  | list {p : Phrase} {ps : List Phrase} (among : p ∈ ps) (within : Part q p) : Part q (.list ps)
  | member {p : Phrase} {ps : List Phrase} (among : p ∈ ps) (within : Part q p) : Part q (.set ps)
  | key {e : Phrase × Phrase} {ps : List Phrase} (among : e ∈ pairsOf ps) (within : Part q e.1) :
      Part q (.dict ps)
  | result {e : Phrase × Phrase} {ps : List Phrase} (among : e ∈ pairsOf ps) (within : Part q e.2) :
      Part q (.dict ps)

end Phrase

theorem values_eq (ps : List Phrase) : values ps = ps.mapM value := by
  induction ps with
  | nil => rfl
  | cons p ps ih => rw [values, ih, List.mapM_cons]; rfl

theorem members_eq (xs : List Item) (ps : List Phrase) :
    members xs ps = ps.foldlM (fun xs p => value p >>= insert xs) xs := by
  induction ps generalizing xs with
  | nil => rfl
  | cons p ps ih =>
    rw [members, List.foldlM_cons, bind_assoc]
    simp only [ih]

def enter (es : List (Item × Item)) (e : Phrase × Phrase) : Except ReadFault (List (Item × Item)) := do
  let k ← value e.1
  let v ← value e.2
  put es k v

theorem entriesOf_eq (es : List (Item × Item)) (ps : List Phrase) :
    entriesOf es ps = (Phrase.pairsOf ps).foldlM enter es := by
  induction ps using Phrase.pairsOf.induct generalizing es with
  | case1 k v ps ih =>
    rw [entriesOf, Phrase.pairsOf, List.foldlM_cons, enter]
    simp only [bind_assoc, ih]
  | case2 ps short =>
    match ps, short with
    | [], _ => rfl
    | [p], _ => rfl
    | p :: q :: ps, short => exact absurd rfl (short p q ps)

theorem kept_error {α : Type} {x : Item} {a : α} {f : ReadFault} :
    (if x.hash?.isNone then .error .unhashable else .ok a) = (.error f : Except ReadFault α) ↔
      x.hash? = none ∧ f = .unhashable := by
  cases x.hash? with
  | none => exact ⟨fun failed => ⟨rfl, (Except.error.inj failed).symm⟩, fun both => by rw [both.2]; rfl⟩
  | some h => exact ⟨nofun, fun both => nomatch both.1⟩

theorem insert_error {xs : List Item} {x : Item} {f : ReadFault} :
    insert xs x = .error f ↔ x.hash? = none ∧ f = .unhashable := kept_error

theorem put_error {es : List (Item × Item)} {k v : Item} {f : ReadFault} :
    put es k v = .error f ↔ k.hash? = none ∧ f = .unhashable := kept_error

inductive Written : Numeric → Prop
  | int (n : Int) : Written (.int n)
  | float (x : Binary64) : Written (.float x)
  | complex (z : ComplexFloat) : Written (.complex z)

theorem unsigned_ensures (p : Phrase) : Ensures Written (· = .malformed) (unsigned p) := by
  unfold unsigned
  split
  · exact .int _
  · exact .float _
  · exact .complex _
  · rfl

theorem number?_ensures (p : Phrase) : Ensures Written (· = .malformed) (number? p) := by
  unfold number?
  split
  · exact unsigned_ensures _
  · refine (unsigned_ensures _).map ?_
    rintro _ (n | x | z)
    · exact .int _
    · exact .float _
    · exact .complex _
  · exact unsigned_ensures _

/-- An integer that has no place in floating point, next to an imaginary part. -/
structure Overflows (p q : Phrase) (n : Int) (z : ComplexFloat) : Prop where
  left : number? p = .ok (.int n)
  right : unsigned q = .ok (.complex z)
  large : Binary64.ofInt? n = none

theorem add_int_complex (n : Int) (z : ComplexFloat) {op : BinaryOperator} (summing : op = .add ∨ op = .sub) :
    (∃ t, (Numeric.int n).apply op (.complex z) = .error t) ↔ Binary64.ofInt? n = none := by
  rcases summing with rfl | rfl <;> cases entered : Binary64.ofInt? n <;>
    simp [Numeric.apply, Numeric.meet, Numeric.toFloat, integerToFloat, entered, Except.map, bind,
      Except.bind, Matched.add, Matched.sub]

theorem add_float_complex (x : Binary64) (z : ComplexFloat) {op : BinaryOperator}
    (summing : op = .add ∨ op = .sub) : ∃ v, (Numeric.float x).apply op (.complex z) = .ok v := by
  rcases summing with rfl | rfl <;> exact ⟨_, rfl⟩

theorem sumOf_error {op : BinaryOperator} (summing : op = .add ∨ op = .sub) {p q : Phrase} {f : ReadFault}
    (failed : sumOf op p q = .error f) (formed : f ≠ .malformed) :
    f = .overflow ∧ ∃ n z, Overflows p q n z := by
  rcases bind_error.1 failed with left | ⟨l, left, rest⟩
  · exact absurd ((number?_ensures p).failure left) formed
  rcases bind_error.1 rest with right | ⟨r, right, rest⟩
  · exact absurd ((unsigned_ensures q).failure right) formed
  have written := (number?_ensures p).result left
  cases (unsigned_ensures q).result right with
  | int m | float y => cases written <;> exact absurd (Except.error.inj rest).symm formed
  | complex z =>
    cases written with
    | int n =>
      obtain ⟨t, refused, rfl⟩ := mapError_error.1 rest
      exact ⟨rfl, n, z, left, right, (add_int_complex n z summing).1 ⟨t, refused⟩⟩
    | float x =>
      obtain ⟨t, refused, -⟩ := mapError_error.1 rest
      obtain ⟨v, summed⟩ := add_float_complex x z summing
      cases summed.symm.trans refused
    | complex w => exact absurd (Except.error.inj rest).symm formed

theorem sumOf_overflows {op : BinaryOperator} (summing : op = .add ∨ op = .sub) {p q : Phrase} {n : Int}
    {z : ComplexFloat} (overflows : Overflows p q n z) : sumOf op p q = .error .overflow := by
  obtain ⟨t, refused⟩ := (add_int_complex n z summing).2 overflows.large
  rw [sumOf, overflows.left, overflows.right]
  exact mapError_error.2 ⟨t, refused, rfl⟩

/-- What is at fault in a phrase, apart from its form. -/
inductive Culprit : Phrase → ReadFault → Prop
  | member {ps : List Phrase} {p : Phrase} {x : Item} (among : p ∈ ps) (read : value p = .ok x)
      (changeable : x.hash? = none) : Culprit (.set ps) .unhashable
  | key {ps : List Phrase} {e : Phrase × Phrase} {x : Item} (among : e ∈ Phrase.pairsOf ps)
      (read : value e.1 = .ok x) (changeable : x.hash? = none) : Culprit (.dict ps) .unhashable
  | sum {p q : Phrase} {n : Int} {z : ComplexFloat} (overflows : Overflows p q n z) : Culprit (.plus p q) .overflow
  | difference {p q : Phrase} {n : Int} {z : ComplexFloat} (overflows : Overflows p q n z) :
      Culprit (.minus p q) .overflow

theorem Culprit.unread {p : Phrase} {f : ReadFault} (culprit : Culprit p f) (x : Item) : value p ≠ .ok x := by
  intro done
  cases culprit with
  | member among read changeable =>
    obtain ⟨xs, listed, -⟩ := bind_ok.1 done
    rw [members_eq] at listed
    obtain ⟨ys, zs, added⟩ := foldlM_each listed _ among
    obtain ⟨y, read', added⟩ := bind_ok.1 added
    cases read.symm.trans read'
    cases (insert_error.2 ⟨changeable, rfl⟩).symm.trans added
  | key among read changeable =>
    obtain ⟨es, listed, -⟩ := bind_ok.1 done
    rw [entriesOf_eq] at listed
    obtain ⟨ds, ds', added⟩ := foldlM_each listed _ among
    obtain ⟨k, read', added⟩ := bind_ok.1 added
    obtain ⟨v, -, added⟩ := bind_ok.1 added
    cases read.symm.trans read'
    cases (put_error.2 ⟨changeable, rfl⟩).symm.trans added
  | sum overflows => cases (sumOf_overflows (.inl rfl) overflows).symm.trans done
  | difference overflows => cases (sumOf_overflows (.inr rfl) overflows).symm.trans done

theorem part_read {q p : Phrase} (part : q.Part p) {x : Item} (done : value p = .ok x) :
    ∃ y, value q = .ok y := by
  induction part generalizing x with
  | self => exact ⟨x, done⟩
  | tuple among within ih | list among within ih =>
    obtain ⟨xs, listed, -⟩ := bind_ok.1 done
    rw [values_eq] at listed
    obtain ⟨y, read⟩ := mapM_each listed _ among
    exact ih read
  | member among within ih =>
    obtain ⟨xs, listed, -⟩ := bind_ok.1 done
    rw [members_eq] at listed
    obtain ⟨ys, zs, added⟩ := foldlM_each listed _ among
    obtain ⟨y, read, -⟩ := bind_ok.1 added
    exact ih read
  | key among within ih =>
    obtain ⟨es, listed, -⟩ := bind_ok.1 done
    rw [entriesOf_eq] at listed
    obtain ⟨ds, ds', added⟩ := foldlM_each listed _ among
    obtain ⟨k, read, -⟩ := bind_ok.1 added
    exact ih read
  | result among within ih =>
    obtain ⟨es, listed, -⟩ := bind_ok.1 done
    rw [entriesOf_eq] at listed
    obtain ⟨ds, ds', added⟩ := foldlM_each listed _ among
    obtain ⟨k, -, added⟩ := bind_ok.1 added
    obtain ⟨v, read, -⟩ := bind_ok.1 added
    exact ih read

theorem value_culprit {p : Phrase} {f : ReadFault} (failed : value p = .error f) (formed : f ≠ .malformed) :
    ∃ q : Phrase, q.Part p ∧ Culprit q f := by
  induction p using Phrase.bracketing with
  | bare p bare =>
    have number (q : Phrase) (failed : (number? q).map itemOf = .error f) : False :=
      formed ((number?_ensures q).failure (map_error.1 failed))
    cases p with
    | constant x | emptySet => cases failed
    | positive p => exact (number (.positive p) failed).elim
    | negative p => exact (number (.negative p) failed).elim
    | name w => exact (number (.name w) failed).elim
    | other => exact (number .other failed).elim
    | plus p q =>
      obtain ⟨rfl, n, z, overflows⟩ := sumOf_error (.inl rfl) failed formed
      exact ⟨_, .self, .sum overflows⟩
    | minus p q =>
      obtain ⟨rfl, n, z, overflows⟩ := sumOf_error (.inr rfl) failed formed
      exact ⟨_, .self, .difference overflows⟩
    | tuple ps | list ps | set ps | dict ps => cases bare
  | tuple ps ih =>
    rcases bind_error.1 failed with failed | ⟨_, -, failed⟩
    · rw [values_eq] at failed
      obtain ⟨p, among, failed⟩ := mapM_culprit failed
      obtain ⟨q, part, culprit⟩ := ih p among failed
      exact ⟨q, .tuple among part, culprit⟩
    · cases failed
  | list ps ih =>
    rcases bind_error.1 failed with failed | ⟨_, -, failed⟩
    · rw [values_eq] at failed
      obtain ⟨p, among, failed⟩ := mapM_culprit failed
      obtain ⟨q, part, culprit⟩ := ih p among failed
      exact ⟨q, .list among part, culprit⟩
    · cases failed
  | set ps ih =>
    rcases bind_error.1 failed with failed | ⟨_, -, failed⟩
    · rw [members_eq] at failed
      obtain ⟨before, p, after, xs, rfl, -, failed⟩ := foldlM_error.1 failed
      have among : p ∈ before ++ p :: after := by simp
      rcases bind_error.1 failed with failed | ⟨x, read, failed⟩
      · obtain ⟨q, part, culprit⟩ := ih p among failed
        exact ⟨q, .member among part, culprit⟩
      · obtain ⟨changeable, rfl⟩ := insert_error.1 failed
        exact ⟨_, .self, .member among read changeable⟩
    · cases failed
  | dict ps ih =>
    rcases bind_error.1 failed with failed | ⟨_, -, failed⟩
    · rw [entriesOf_eq] at failed
      obtain ⟨before, e, after, es, split, -, failed⟩ := foldlM_error.1 failed
      have among : e ∈ Phrase.pairsOf ps := by simp [split]
      obtain ⟨key, result⟩ := Phrase.pairsOf_subset ps e among
      rcases bind_error.1 failed with failed | ⟨k, read, failed⟩
      · obtain ⟨q, part, culprit⟩ := ih e.1 key failed
        exact ⟨q, .key among part, culprit⟩
      rcases bind_error.1 failed with failed | ⟨v, -, failed⟩
      · obtain ⟨q, part, culprit⟩ := ih e.2 result failed
        exact ⟨q, .result among part, culprit⟩
      · obtain ⟨changeable, rfl⟩ := put_error.1 failed
        exact ⟨_, .self, .key among read changeable⟩
    · cases failed

variable [Host]

-- The text has the form of a literal, but some part of it is at fault.
def Blames (cs : List Char) (f : ReadFault) : Prop :=
  ∃ p, Host.parse cs = some p ∧ ∃ q : Phrase, q.Part p ∧ Culprit q f

theorem read_blames {cs : List Char} {f : ReadFault} (failed : read cs = .error f) (formed : f ≠ .malformed) :
    Blames cs f := by
  unfold read at failed
  split at failed
  · exact ⟨_, ‹_›, value_culprit failed formed⟩
  · exact absurd (Except.error.inj failed).symm formed

theorem read_blameless {cs : List Char} {x : Item} (done : read cs = .ok x) (f : ReadFault) : ¬ Blames cs f := by
  rintro ⟨p, formed, q, part, culprit⟩
  rw [read, formed] at done
  obtain ⟨y, read⟩ := part_read part done
  exact culprit.unread y read

end Deferred.Literal
