import Deferred.Build
import Deferred.Proofs.Flavor
import Deferred.Proofs.Formation
import Mathlib.Data.List.Forall2

-- Computing an operator at once against deferring it. Operands that are not nodes may still be tuples with nodes in
-- them.

set_option autoImplicit false

namespace Deferred

open Outcome

namespace Item

theorem reprs_eq (xs : List Item) : reprs xs = xs.map repr := by
  induction xs with
  | nil => rfl
  | cons x xs ih => simp [reprs, ih]

theorem tupleRepr_rebuilt (f : TupleForm) (texts : List String) :
    tupleRepr f.rebuilt texts = tupleRepr f texts := by
  cases f with
  | plain | shape => rfl
  | pair =>
    match texts with
    | [] | [_] | _ :: _ :: _ => rfl

/-- Both read the same wherever text is asked for: they are the same, or tuples that are shown alike. -/
inductive Reads : Item → Item → Prop
  | same (x : Item) : Reads x x
  | tuples {f g : TupleForm} {xs ys : List Item} (shown : (tuple f xs).repr = (tuple g ys).repr)
      (writable : areWritable xs = areWritable ys) : Reads (tuple f xs) (tuple g ys)

theorem Reads.repr {x y : Item} (reads : Reads x y) : x.repr = y.repr := by
  cases reads with
  | same => rfl
  | tuples shown => exact shown

theorem Reads.isWritable {x y : Item} (reads : Reads x y) : x.isWritable = y.isWritable := by
  cases reads with
  | same => rfl
  | tuples _ writable => exact writable

theorem evaluateWith_reads [Host] {look : Lookup} {x y : Item} (bare : x.nodes = [])
    (done : evaluateWith look x = .ok y) : Reads x y := by
  induction x using entering generalizing y with
  | literal x h =>
    rw [evaluateWith_literal look h] at done
    cases done
    exact .same x
  | tuple f xs ih =>
    rw [evaluateWith_tuple] at done
    obtain ⟨ys, parts, rebuilt⟩ := bind_ok.1 done
    cases rebuilt
    have alike : xs.map Item.repr = ys.map Item.repr ∧ areWritable xs = areWritable ys := by
      rw [nodes_tuple, List.flatMap_eq_nil_iff] at bare
      have each := mapM_ok.1 parts
      clear parts done
      induction each with
      | nil => exact ⟨rfl, rfl⟩
      | cons head tail rest =>
        have first := ih _ List.mem_cons_self (bare _ List.mem_cons_self) head
        obtain ⟨texts, writable⟩ := rest (fun y member => ih y (List.mem_cons_of_mem _ member))
          fun y member => bare y (List.mem_cons_of_mem _ member)
        rw [List.map_cons, List.map_cons, first.repr, texts, areWritable, areWritable, first.isWritable, writable]
        exact ⟨rfl, rfl⟩
    refine .tuples ?_ alike.2
    rw [Item.repr, Item.repr, reprs_eq, reprs_eq, alike.1, tupleRepr_rebuilt]
  | placeholder s n k => simp at bare
  | unary s op x k => simp at bare
  | binary s op l r k => simp at bare

end Item

namespace Template

/-- The same number of values to fill a template with, which read the same, and nothing to look names up in. -/
structure Supply.Reads (s t : Supply) : Prop where
  rest : List.Forall₂ Item.Reads s.rest t.rest
  left : s.mapping = none
  right : t.mapping = none

theorem next_reads {s t : Supply} (reads : s.Reads t) :
    Related (fun p q => p.1.Reads q.1 ∧ p.2.Reads q.2) Eq s.next t.next := by
  obtain ⟨xs, m⟩ := s
  obtain ⟨ys, n⟩ := t
  obtain ⟨rest, left, right⟩ := reads
  cases rest with
  | nil => rfl
  | cons first rest => exact ⟨first, rest, left, right⟩

theorem named_reads (cs : List Char) {s t : Supply} (reads : s.Reads t) :
    Related (fun p q => p.1 = q.1 ∧ p.2.Reads q.2) Eq (named cs s) (named cs t) := by
  unfold named
  split
  · rw [reads.left, reads.right]
    rfl
  · exact ⟨rfl, reads⟩

theorem int_reads {x y : Item} (reads : x.Reads y) : x.int? = y.int? := by
  cases reads <;> rfl

theorem width_reads (f : Flags) (cs : List Char) {s t : Supply} (reads : s.Reads t) :
    Related (fun p q => p.1 = q.1 ∧ p.2.1 = q.2.1 ∧ p.2.2.1 = q.2.2.1 ∧ p.2.2.2.Reads q.2.2.2) Eq
      (width f cs s) (width f cs t) := by
  unfold width
  split
  · refine (next_reads reads).bind fun ⟨x, s⟩ ⟨y, t⟩ ⟨first, rest⟩ => ?_
    dsimp only
    rw [int_reads first]
    cases y.int? with
    | none => rfl
    | some n =>
      dsimp only
      split
      · rfl
      · exact ⟨rfl, rfl, rfl, rest⟩
  · dsimp only
    split
    · exact ⟨rfl, rfl, rfl, reads⟩
    · split
      · rfl
      · exact ⟨rfl, rfl, rfl, reads⟩

theorem precision_reads (cs : List Char) {s t : Supply} (reads : s.Reads t) :
    Related (fun p q => p.1 = q.1 ∧ p.2.1 = q.2.1 ∧ p.2.2.Reads q.2.2) Eq
      (precision cs s) (precision cs t) := by
  unfold precision
  split
  · refine (next_reads reads).bind fun ⟨x, s⟩ ⟨y, t⟩ ⟨first, rest⟩ => ?_
    dsimp only
    rw [int_reads first]
    cases y.int? with
    | none => rfl
    | some n =>
      dsimp only
      split
      · rfl
      · exact ⟨rfl, rfl, rest⟩
  · dsimp only
    split
    · rfl
    · exact ⟨rfl, rfl, reads⟩
  · exact ⟨rfl, rfl, reads⟩

theorem directive_reads (cs : List Char) {s t : Supply} (reads : s.Reads t) :
    Related (fun p q => p.1 = q.1 ∧ p.2.1 = q.2.1 ∧ p.2.2.Reads q.2.2) Eq
      (directive cs s) (directive cs t) := by
  unfold directive
  refine (named_reads cs reads).bind fun ⟨cs, s⟩ ⟨ds, t⟩ ⟨same, reads⟩ => ?_
  obtain rfl : cs = ds := same
  dsimp only
  refine (width_reads _ _ reads).bind fun ⟨f, w, cs, s⟩ ⟨g, v, ds, t⟩ ⟨flag, size, same, reads⟩ => ?_
  obtain rfl : f = g := flag
  obtain rfl : w = v := size
  obtain rfl : cs = ds := same
  dsimp only
  refine (precision_reads _ reads).bind fun ⟨p, cs, s⟩ ⟨q, ds, t⟩ ⟨size, same, reads⟩ => ?_
  obtain rfl : p = q := size
  obtain rfl : cs = ds := same
  dsimp only
  split
  · rfl
  · exact ⟨rfl, rfl, reads⟩

theorem fill_reads {convert : Directive → Item → Except Trouble (List Char)}
    (alike : ∀ d {x y : Item}, x.Reads y → convert d x = convert d y) (fuel : Nat) (cs : List Char)
    {s t : Supply} (reads : s.Reads t) : fill convert fuel cs s = fill convert fuel cs t := by
  have finish {s t : Supply} (reads : s.Reads t) : s.rest.isEmpty = t.rest.isEmpty := by
    obtain ⟨rest, -⟩ := reads
    cases rest_eq : s.rest <;> cases other : t.rest <;> simp_all
  induction fuel generalizing cs s t with
  | zero => simp [fill, reads.left, reads.right, finish reads]
  | succ fuel ih =>
    match cs with
    | [] => simp [fill, reads.left, reads.right, finish reads]
    | c :: cs =>
      by_cases percent : c = '%'
      · subst percent
        rw [fill, fill, ← Related.eq]
        refine (directive_reads cs reads).bind fun ⟨d, cs, s⟩ ⟨e, ds, t⟩ ⟨made, same, reads⟩ => ?_
        obtain rfl : d = e := made
        obtain rfl : cs = ds := same
        dsimp only
        split
        · rw [ih cs reads]
          exact Related.eq.2 rfl
        · refine (next_reads reads).bind fun ⟨x, s⟩ ⟨y, t⟩ ⟨first, reads⟩ => ?_
          dsimp only
          rw [alike d first, ih cs reads]
          exact Related.eq.2 rfl
      · simp only [fill, ih cs reads]

theorem convert_reads [Host] (d : Directive) {x y : Item} (reads : x.Reads y) : d.convert x = d.convert y := by
  cases reads with
  | same => rfl
  | tuples shown writable =>
    simp only [Directive.convert, written, Item.text, Item.isExpression, Item.literalText, shown,
      Item.isWritable, writable]
    rfl

theorem convertBytes_reads [Host] (d : Directive) {x y : Item} (reads : x.Reads y) :
    d.convertBytes x = d.convertBytes y := by
  cases reads with
  | same => rfl
  | tuples shown writable =>
    simp only [Directive.convertBytes, written, shown, Item.isWritable, writable]
    rfl

end Template

namespace Numeric

def Plain (r : Except Trouble Item) : Prop := Ensures (fun x => x.isLiteral) (fun _ => True) r

theorem plain_signalling (r : Except Decimal.Signal Decimal) : Plain (signalling r) := by
  cases r <;> trivial

theorem plain_matched {f : Matched → Except Trouble Item} (each : ∀ m, Plain (f m)) (x y : Numeric) :
    Plain (x.meet y >>= f) := by
  cases x.meet y with
  | ok m => exact each m
  | error t => trivial

theorem plain_div (m : Matched) : Plain m.div := by
  unfold Matched.div
  split
  · exact .ite (fun _ => trivial) fun _ => rfl
  · exact .ite (fun _ => trivial) fun _ => rfl
  · split <;> trivial
  · exact .ite (fun _ => trivial) fun _ => rfl
  · exact plain_signalling _

theorem plain_mod (m : Matched) : Plain m.mod := by
  unfold Matched.mod
  split
  · exact .ite (fun _ => trivial) fun _ => rfl
  · exact .ite (fun _ => trivial) fun _ => rfl
  · trivial
  · exact .ite (fun _ => trivial) fun _ => rfl
  · exact plain_signalling _

theorem plain_floatRem (x y : Numeric) : Plain (floatRem x y) := by
  unfold floatRem
  dsimp only
  refine .ite (fun _ => trivial) fun _ => .ite (fun _ => rfl) fun _ => ?_
  cases x.toFloat with
  | error t => trivial
  | ok a => cases y.toFloat <;> trivial

theorem plain_apply (op : BinaryOperator) (x y : Numeric) : Plain (x.apply op y) := by
  cases op with
  | add | sub | mul =>
    refine plain_matched (fun m => ?_) x y
    cases m <;> first
      | trivial
      | exact plain_signalling _
  | div => exact plain_matched plain_div x y
  | mod =>
    rw [apply]
    unfold rem
    split
    · exact plain_floatRem _ _
    · exact plain_floatRem _ _
    · exact plain_floatRem _ _
    · trivial
    · trivial
    · exact plain_matched plain_mod _ _

theorem plain_applyUnary (op : UnaryOperator) (x : Numeric) : Plain (x.applyUnary op) := by
  cases op <;> cases x <;> first
    | trivial
    | exact plain_signalling _

end Numeric

namespace Item

theorem literal_or_tuple {x : Item} (value : x.isExpression = false) :
    x.isLiteral ∨ ∃ f xs, x = .tuple f xs := by
  cases x <;> first
    | exact .inl rfl
    | exact .inr ⟨_, _, rfl⟩
    | cases value

theorem value_of_literal {x : Item} (h : x.isLiteral) : x.isExpression = false := by
  cases x <;> first
    | rfl
    | cases h

theorem operateUnary_literal [Host] {op : UnaryOperator} {x y : Item} (value : x.isExpression = false)
    (done : operateUnary op x = .ok y) : x.isLiteral ∧ y.isLiteral := by
  unfold operateUnary at done
  rw [value] at done
  simp only [Bool.false_eq_true, if_false] at done
  split at done
  next n number =>
    refine ⟨?_, (Numeric.plain_applyUnary _ n).result done⟩
    rcases literal_or_tuple value with h | ⟨f, xs, rfl⟩
    · exact h
    · cases number
  · cases done
    exact ⟨rfl, rfl⟩
  · cases done

theorem clock_apply_literal (op : BinaryOperator) (a b : Item) : Numeric.Plain (Clock.apply op a b) := by
  unfold Clock.apply
  split
  · split <;> trivial
  · split <;> trivial
  · split
    · exact .ite (fun _ => trivial) fun _ => rfl
    · trivial
  · split
    · exact .ite (fun _ => trivial) fun _ => rfl
    · trivial
  · trivial

theorem times_literal [Host] {a x : Item} {n : Int} (h : a.isLiteral) (done : times a n = .ok x) :
    x.isLiteral := by
  unfold times at done
  split at done
  · obtain ⟨zs, -, made⟩ := bind_ok.1 done; cases made; rfl
  · obtain ⟨zs, -, made⟩ := bind_ok.1 done; cases made; rfl
  · cases h
  · obtain ⟨zs, -, made⟩ := bind_ok.1 done; cases made; rfl
  · cases done

theorem join_literal {a b x : Item} (h : a.isLiteral) (done : join a b = .ok x) : x.isLiteral := by
  unfold join at done
  split at done
  · cases done; rfl
  · cases done; rfl
  · cases h
  · cases done; rfl
  · cases done

theorem difference_sets {a b x : Item} (done : difference a b = .ok x) :
    ∃ xs ys, a = .set xs ∧ b = .set ys ∧ x = .set (without xs ys) := by
  unfold difference at done
  split at done
  · cases done
    exact ⟨_, _, rfl, rfl, rfl⟩
  · cases done

theorem combineValues_literal [Host] {op : BinaryOperator} {a b x : Item} (left : a.isLiteral)
    (right : b.isLiteral) (done : combineValues op a b = .ok x) : x.isLiteral := by
  unfold combineValues at done
  split at done
  · exact (Numeric.plain_apply op _ _).result done
  · split at done
    · exact (clock_apply_literal op a b).result done
    · split at done
      · exact join_literal left done
      · obtain ⟨_, _, -, -, rfl⟩ := difference_sets done
        rfl
      · split at done
        · exact times_literal left done
        · exact times_literal right done
        · cases done
      · cases done

theorem combine_literal [Host] {op : BinaryOperator} {a b x : Item} (left : a.isLiteral) (right : b.isLiteral)
    (done : combine op a b = .ok x) : x.isLiteral := by
  unfold combine at done
  split at done
  · obtain ⟨out, -, made⟩ := bind_ok.1 done; cases made; rfl
  · obtain ⟨out, -, made⟩ := bind_ok.1 done; cases made; rfl
  · rw [value_of_literal left, value_of_literal right] at done
    exact combineValues_literal left right done

theorem operateBinary_literal [Host] {op : BinaryOperator} {a b x : Item} (left : a.isLiteral)
    (right : b.isLiteral) (done : operateBinary op a b = .ok x) : x.isLiteral := by
  cases op with
  | add =>
    rw [operateBinary] at done
    unfold sum at done
    split at done
    next s kilo n =>
      cases inner : sum n b with
      | ok m => rw [inner] at done; cases done; rfl
      | error t => rw [inner] at done; cases done
    · exact combine_literal left right done
  | sub | mul | div | mod =>
    rw [operateBinary] at done
    · exact combine_literal left right done
    · simp

theorem literal_of_int {x : Item} {n : Int} (whole : x.int? = some n) : x.isLiteral := by
  cases x <;> first
    | rfl
    | cases whole

theorem clock_apply_operands {op : BinaryOperator} {a b x : Item} (done : Clock.apply op a b = .ok x) :
    a.isLiteral ∧ b.isLiteral := by
  unfold Clock.apply at done
  split at done
  · split at done
    next n whole => exact ⟨literal_of_int whole, rfl⟩
    · cases done
  · split at done
    next n whole => exact ⟨literal_of_int whole, rfl⟩
    · cases done
  · split at done
    next n whole => exact ⟨rfl, literal_of_int whole⟩
    · cases done
  · split at done
    next n whole => exact ⟨rfl, literal_of_int whole⟩
    · cases done
  · cases done

theorem combineValues_tuple [Host] {op : BinaryOperator} {a b x : Item}
    (structured : ¬ (a.isLiteral ∧ b.isLiteral)) (done : combineValues op a b = .ok x) :
    (op = .add ∧ join a b = .ok x) ∨ (op = .mul ∧ ∃ n, b.int? = some n ∧ times a n = .ok x) ∨
      (op = .mul ∧ b.int? = Option.none ∧ ∃ n, a.int? = some n ∧ times b n = .ok x) := by
  unfold combineValues at done
  split at done
  next p q left right =>
    have literal (c : Item) (r : Numeric) (number : c.numeric? = some r) : c.isLiteral := by
      cases c <;> first
        | rfl
        | cases number
    exact absurd ⟨literal a p left, literal b q right⟩ structured
  next =>
    split at done
    · exact absurd (clock_apply_operands done) structured
    · split at done
      · exact .inl ⟨rfl, done⟩
      · obtain ⟨_, _, rfl, rfl, -⟩ := difference_sets done
        exact absurd ⟨rfl, rfl⟩ structured
      · split at done
        next n whole => exact .inr (.inl ⟨rfl, n, whole, done⟩)
        next n whole other => exact .inr (.inr ⟨rfl, Option.eq_none_iff_forall_ne_some.2 other, n, whole, done⟩)
        · cases done
      · cases done

end Item

section

variable [Host]

namespace Sequence

theorem repeated_related {α β : Type} {R : α → β → Prop} {xs : List α} {ys : List β}
    (each : List.Forall₂ R xs ys) (n : Int) (tooLong : Trouble) :
    Related (List.Forall₂ R) Eq (repeated xs n tooLong) (repeated ys n tooLong) := by
  have empty : xs.isEmpty = ys.isEmpty := by cases each <;> rfl
  have copies (k : Nat) :
      List.Forall₂ R (List.replicate k xs).flatten (List.replicate k ys).flatten := by
    induction k with
    | zero => exact .nil
    | succ k ih =>
      rw [List.replicate_succ, List.replicate_succ, List.flatten_cons, List.flatten_cons]
      exact List.rel_append each ih
  unfold repeated
  rw [each.length_eq, empty]
  split
  · rfl
  · split
    · exact .nil
    · split
      · rfl
      · split
        · rfl
        · exact copies _

end Sequence

namespace Item

variable {look : Lookup} {l r v w x : Item}

theorem evaluateWith_tuple_ok {f : TupleForm} {xs : List Item} :
    evaluateWith look (.tuple f xs) = .ok v ↔
      ∃ vs, List.Forall₂ (fun x v => evaluateWith look x = .ok v) xs vs ∧ .tuple f.rebuilt vs = v := by
  rw [evaluateWith_tuple, bind_ok]
  simp only [mapM_ok, Except.ok.injEq]

theorem literal_evaluates (literal : l.isLiteral) (done : evaluateWith look l = .ok v) : v = l := by
  rw [evaluateWith_literal look literal] at done
  exact (Except.ok.inj done).symm

theorem join_evaluates (left : evaluateWith look l = .ok v) (right : evaluateWith look r = .ok w)
    (structured : ¬ (l.isLiteral ∧ r.isLiteral)) (joined : join l r = .ok x) :
    ∃ y, evaluateWith look x = .ok y ∧ operateBinary .add v w = .ok y := by
  unfold join at joined
  split at joined
  · exact absurd ⟨rfl, rfl⟩ structured
  · exact absurd ⟨rfl, rfl⟩ structured
  next f xs g ys =>
    cases joined
    obtain ⟨vs, first, rfl⟩ := evaluateWith_tuple_ok.1 left
    obtain ⟨ws, second, rfl⟩ := evaluateWith_tuple_ok.1 right
    exact ⟨.tuple .plain (vs ++ ws), evaluateWith_tuple_ok.2 ⟨vs ++ ws, List.rel_append first second, rfl⟩, rfl⟩
  · exact absurd ⟨rfl, rfl⟩ structured
  · cases joined

theorem times_evaluates {f : TupleForm} {xs : List Item} {n : Int}
    (left : evaluateWith look (.tuple f xs) = .ok v) (done : times (.tuple f xs) n = .ok x) :
    ∃ y, evaluateWith look x = .ok y ∧ times v n = .ok y := by
  obtain ⟨zs, formed, made⟩ := bind_ok.1 done
  cases made
  obtain ⟨vs, each, rfl⟩ := evaluateWith_tuple_ok.1 left
  obtain ⟨us, again, parts⟩ := (Sequence.repeated_related each n .exhausted).result formed
  refine ⟨.tuple .plain us, evaluateWith_tuple_ok.2 ⟨us, parts, rfl⟩, ?_⟩
  simp only [times, again]
  rfl

theorem operateBinary_times_tuple {f : TupleForm} {xs : List Item} {b : Item} {n : Int}
    (whole : b.int? = some n) : operateBinary .mul (.tuple f xs) b = times (.tuple f xs) n := by
  cases b <;> cases whole <;> rfl

theorem operateBinary_tuple_times {f : TupleForm} {xs : List Item} {a : Item} {n : Int}
    (whole : a.int? = some n) : operateBinary .mul a (.tuple f xs) = times (.tuple f xs) n := by
  cases a <;> cases whole <;> rfl

/-- Where computing an operator at once may read a tuple as it stands: a template filled with it, and a length
it is added to. Neither may see a part that evaluation would change. -/
structure Transparent (look : Lookup) (op : BinaryOperator) (l r : Item) : Prop where
  template : op = .mod → ((∃ t, l = .str t) ∨ ∃ t, l = .bytes t) →
    ∀ f xs, r = .tuple f xs → r.nodes = []
  length : op = .add → (∃ s kilo n, l = .meters s kilo n) →
    ∀ f xs, r = .tuple f xs → evaluateWith look r = .ok r

theorem combineValues_evaluates {op : BinaryOperator} (left : evaluateWith look l = .ok v)
    (right : evaluateWith look r = .ok w) (value : l.isExpression = false)
    (other : r.isExpression = false) (structured : ¬ (l.isLiteral ∧ r.isLiteral))
    (done : combineValues op l r = .ok x) :
    ∃ y, evaluateWith look x = .ok y ∧ operateBinary op v w = .ok y := by
  rcases combineValues_tuple structured done with ⟨rfl, joined⟩ | ⟨rfl, n, whole, copied⟩ |
    ⟨rfl, -, n, whole, copied⟩
  · exact join_evaluates left right structured joined
  · have literal := literal_of_int whole
    obtain rfl := literal_evaluates literal right
    rcases literal_or_tuple value with h | ⟨f, xs, rfl⟩
    · exact absurd ⟨h, literal⟩ structured
    · obtain ⟨vs, each, rfl⟩ := evaluateWith_tuple_ok.1 left
      rw [operateBinary_times_tuple whole]
      exact times_evaluates left copied
  · have literal := literal_of_int whole
    obtain rfl := literal_evaluates literal left
    rcases literal_or_tuple other with h | ⟨f, xs, rfl⟩
    · exact absurd ⟨literal, h⟩ structured
    · obtain ⟨vs, each, rfl⟩ := evaluateWith_tuple_ok.1 right
      rw [operateBinary_tuple_times whole]
      exact times_evaluates right copied

omit [Host] in
theorem supply_reads {isMapping : Item → Bool} (sequence : ∀ f xs, isMapping (.tuple f xs) = false)
    {f g : TupleForm} {xs ys : List Item} (each : List.Forall₂ Reads xs ys) :
    (Template.supply isMapping (.tuple f xs)).Reads (Template.supply isMapping (.tuple g ys)) := by
  refine ⟨each, ?_, ?_⟩ <;> simp [Template.supply, sequence]

theorem template_evaluates {f : TupleForm} {xs : List Item} (bare : (tuple f xs).nodes = [])
    (right : evaluateWith look (.tuple f xs) = .ok w) :
    (∀ t, Template.fillText t (.tuple f xs) = Template.fillText t w) ∧
      ∀ t, Template.fillBytes t (.tuple f xs) = Template.fillBytes t w := by
  obtain ⟨ws, each, rfl⟩ := evaluateWith_tuple_ok.1 right
  rw [nodes_tuple, List.flatMap_eq_nil_iff] at bare
  have reads : List.Forall₂ Reads xs ws := by
    clear right
    induction each with
    | nil => exact .nil
    | cons head tail rest =>
      refine .cons (evaluateWith_reads (bare _ List.mem_cons_self) head) (rest fun y member => ?_)
      exact bare y (List.mem_cons_of_mem _ member)
  constructor
  · intro t
    unfold Template.fillText
    dsimp only
    rw [Template.fill_reads Template.convert_reads _ _ (supply_reads (fun _ _ => rfl) reads)]
  · intro t
    unfold Template.fillBytes
    dsimp only
    rw [Template.fill_reads Template.convertBytes_reads _ _ (supply_reads (fun _ _ => rfl) reads)]

theorem combine_evaluates {op : BinaryOperator} (left : evaluateWith look l = .ok v)
    (right : evaluateWith look r = .ok w) (value : l.isExpression = false)
    (other : r.isExpression = false) (structured : ¬ (l.isLiteral ∧ r.isLiteral))
    (transparent : Transparent look op l r) (done : combine op l r = .ok x) :
    ∃ y, evaluateWith look x = .ok y ∧ operateBinary op v w = .ok y := by
  have filled (literal : l.isLiteral) : ∃ f xs, r = .tuple f xs := by
    rcases literal_or_tuple other with h | h
    · exact absurd ⟨literal, h⟩ structured
    · exact h
  unfold combine at done
  split at done
  next t =>
    obtain ⟨f, xs, rfl⟩ := filled rfl
    obtain rfl := literal_evaluates rfl left
    have bare := transparent.template rfl (.inl ⟨t, rfl⟩) f xs rfl
    have literal : x.isLiteral := by
      obtain ⟨out, -, made⟩ := bind_ok.1 done
      cases made
      rfl
    refine ⟨x, evaluateWith_literal look literal, ?_⟩
    rw [← done, (template_evaluates bare right).1]
    rfl
  next t =>
    obtain ⟨f, xs, rfl⟩ := filled rfl
    obtain rfl := literal_evaluates rfl left
    have bare := transparent.template rfl (.inr ⟨t, rfl⟩) f xs rfl
    have literal : x.isLiteral := by
      obtain ⟨out, -, made⟩ := bind_ok.1 done
      cases made
      rfl
    refine ⟨x, evaluateWith_literal look literal, ?_⟩
    rw [← done, (template_evaluates bare right).2]
    rfl
  next =>
    rw [value, other] at done
    exact combineValues_evaluates left right value other structured done

theorem operateBinary_evaluates {op : BinaryOperator} (left : evaluateWith look l = .ok v)
    (right : evaluateWith look r = .ok w) (value : l.isExpression = false)
    (other : r.isExpression = false) (transparent : Transparent look op l r)
    (done : operateBinary op l r = .ok x) :
    ∃ y, evaluateWith look x = .ok y ∧ operateBinary op v w = .ok y := by
  by_cases literals : l.isLiteral ∧ r.isLiteral
  · obtain rfl := literal_evaluates literals.1 left
    obtain rfl := literal_evaluates literals.2 right
    have literal := operateBinary_literal literals.1 literals.2 done
    exact ⟨x, evaluateWith_literal look literal, done⟩
  · cases op with
    | add =>
      cases l with
      | meters s kilo n =>
        obtain rfl := literal_evaluates rfl left
        rcases literal_or_tuple other with h | ⟨f, xs, rfl⟩
        · exact absurd ⟨rfl, h⟩ literals
        · have kept := transparent.length rfl ⟨s, kilo, n, rfl⟩ f xs rfl
          obtain rfl := Except.ok.inj (kept.symm.trans right)
          have literal : x.isLiteral := by
            cases inner : sum n (.tuple f xs) with
            | ok m => simp only [operateBinary, sum, inner] at done; cases done; rfl
            | error t => simp only [operateBinary, sum, inner] at done; cases done
          exact ⟨x, evaluateWith_literal look literal, done⟩
      | _ => exact combine_evaluates left right value other literals transparent done
    | sub | mul | div | mod => exact combine_evaluates left right value other literals transparent done

end Item

namespace Build

omit [Host] in
theorem glyph_found {α : Type} {g : Item} {s : Option String} {ofGlyph? : String → Option α} {op : α}
    (read : glyph? g = .ok s) (found : s.bind ofGlyph? = some op) :
    ∃ t, g = .str t ∧ ofGlyph? t = some op := by
  unfold glyph? at read
  split at read
  · cases read
  · split at read
    next t _ => cases read; exact ⟨t, rfl, found⟩
    next => cases read; cases found

theorem computeUnary_eq {g : Item} {s : Option String} {op : UnaryOperator} (read : glyph? g = .ok s)
    (found : s.bind UnaryOperator.ofGlyph? = some op) (a : Item) : computeUnary g a = applyUnary op a := by
  simp [computeUnary, read, Bind.bind, Except.bind, found]

theorem computeBinary_eq {g : Item} {s : Option String} {op : BinaryOperator} (read : glyph? g = .ok s)
    (found : s.bind BinaryOperator.ofGlyph? = some op) (a b : Item) :
    computeBinary g a b = applyBinary op a b := by
  simp [computeBinary, read, Bind.bind, Except.bind, found]

theorem unary_ok {g x y : Item} (built : unary g x = .ok y) :
    ∃ op, (∀ a, computeUnary g a = applyUnary op a) ∧
      ((∃ k, y = .unary 0 op x k) ∨ x.isExpression = false ∧ applyUnary op x = .ok y) := by
  unfold unary at built
  split at built
  next expression =>
    obtain ⟨s, read, built⟩ := bind_ok.1 built
    split at built
    next op found =>
      obtain ⟨k, -, rfl⟩ := Node.unary_ok (mapError_ok.1 built)
      exact ⟨op, computeUnary_eq read found, .inl ⟨k, rfl⟩⟩
    next => cases built
  next value =>
    obtain ⟨s, read, computed⟩ := bind_ok.1 built
    split at computed
    next op found => exact ⟨op, computeUnary_eq read found, .inr ⟨by simpa using value, computed⟩⟩
    next => cases computed

theorem binary_ok {g l r x : Item} (built : binary g l r = .ok x) :
    ∃ op t, g = .str t ∧ BinaryOperator.ofGlyph? t = some op ∧
      (∀ a b, computeBinary g a b = applyBinary op a b) ∧
      ((∃ k, x = .binary 0 op l r k) ∨
        l.isExpression = false ∧ r.isExpression = false ∧ applyBinary op l r = .ok x) := by
  unfold binary at built
  split at built
  next expression =>
    obtain ⟨s, read, made⟩ := bind_ok.1 built
    split at made
    next op found =>
      obtain ⟨t, text, known⟩ := glyph_found read found
      obtain ⟨k, -, rfl⟩ := Node.binary_ok (mapError_ok.1 made)
      exact ⟨op, t, text, known, computeBinary_eq read found, .inl ⟨k, rfl⟩⟩
    next => cases made
  next values =>
    obtain ⟨s, read, computed⟩ := bind_ok.1 built
    split at computed
    next op found =>
      obtain ⟨t, text, known⟩ := glyph_found read found
      rw [Bool.or_eq_true, not_or, Bool.not_eq_true, Bool.not_eq_true] at values
      exact ⟨op, t, text, known, computeBinary_eq read found, .inr ⟨values.1, values.2, computed⟩⟩
    next => cases computed

end Build

omit [Host] in
theorem BinaryOperator.ofGlyph_eq {t : String} {op : BinaryOperator} (known : ofGlyph? t = some op) :
    t = op.glyph.toString := by
  simpa using List.find?_some known

/-- Building and then evaluating an operator comes to what the operator makes of the values of its operands, as
long as no template and no length reads a tuple before its evaluation. -/
theorem building_commutes (d : DynamicEnvironment) :
    (∀ g x y v, Build.unary g x = .ok y → evaluate x (.dynamic d) = .ok v →
      evaluate y (.dynamic d) = Build.computeUnary g v) ∧
    (∀ g l r x v w, Build.binary g l r = .ok x →
      evaluate l (.dynamic d) = .ok v → evaluate r (.dynamic d) = .ok w →
      (g = .str "%" → ((∃ t, l = .str t) ∨ ∃ t, l = .bytes t) →
        ∀ f xs, r = .tuple f xs → r.nodes = []) →
      (g = .str "+" → (∃ s kilo n, l = .meters s kilo n) →
        ∀ f xs, r = .tuple f xs → evaluate r (.dynamic d) = .ok r) →
      evaluate x (.dynamic d) = Build.computeBinary g v w) := by
  constructor
  · intro g x y v built operand
    obtain ⟨op, compute, ⟨k, rfl⟩ | ⟨value, applied⟩⟩ := Build.unary_ok built
    · rw [evaluate_dynamic] at operand
      rw [compute, evaluate_dynamic, evaluateWith, operand]
      rfl
    · obtain ⟨plain, result⟩ := Item.operateUnary_literal value (mapError_ok.1 applied)
      obtain rfl := Item.literal_evaluates plain operand
      rw [compute, applied, evaluate_dynamic, evaluateWith_literal _ result]
  · intro g l r x v w built left right template length
    obtain ⟨op, t, rfl, known, compute, ⟨k, rfl⟩ | ⟨value, other, applied⟩⟩ := Build.binary_ok built
    · rw [evaluate_dynamic] at left right
      rw [compute, evaluate_dynamic, evaluateWith, left, right]
      rfl
    · obtain rfl := BinaryOperator.ofGlyph_eq known
      have transparent : Item.Transparent (Environment.dynamic d).lookup op l r :=
        ⟨fun same => template (by rw [same]; rfl), fun same => length (by rw [same]; rfl)⟩
      obtain ⟨y, evaluated, operated⟩ :=
        Item.operateBinary_evaluates left right value other transparent (mapError_ok.1 applied)
      rw [compute, evaluate_dynamic, evaluated, applyBinary, operated]
      rfl

end

theorem building_commutes_repetition :
    let x : Item := .placeholder 1 "x" .int
    let d : DynamicEnvironment := ⟨[("x", .int 5)]⟩
    Build.binary (.str "*") (.tuple .pair [x, .int 1]) (.int 2) =
      .ok (.tuple .plain [x, .int 1, x, .int 1]) ∧
    evaluate (.tuple .plain [x, .int 1, x, .int 1]) (.dynamic d) =
      Build.computeBinary (.str "*") (.tuple .plain [.int 5, .int 1]) (.int 2) := by
  intro x d
  have built : Build.binary (.str "*") (.tuple .pair [x, .int 1]) (.int 2) =
      .ok (.tuple .plain [x, .int 1, x, .int 1]) := rfl
  refine ⟨built, (building_commutes d).2 _ _ _ _ _ _ built ?_ rfl ?_ ?_⟩
  · rfl
  · intro percent
    simp at percent
  · intro plus
    simp at plus

/-- What is excepted there is excepted for a reason: each of these reads a variable where evaluation would have
put its value. -/
theorem building_early :
    let x : Item := .placeholder 1 "x" .int
    let e : Environment := .dynamic ⟨[("x", .int 5)]⟩
    let operands : Item := .tuple .plain [x]
    let values : Item := .tuple .plain [.int 5]
    let length : Item := .meters 2 false (.tuple .plain [])
    evaluate operands e = .ok values ∧
    (Build.binary (.str "%") (.str "%s") operands = .ok (.str "x") ∧
      evaluate (.str "x") e = .ok (.str "x") ∧
      Build.computeBinary (.str "%") (.str "%s") values = .ok (.str "5")) ∧
    (Build.binary (.str "%") (.bytes [37, 97]) operands = .ok (.bytes "<Variable x:int>".toUTF8.toList) ∧
      Build.computeBinary (.str "%") (.bytes [37, 97]) values = .ok (.bytes [53])) ∧
    (Build.binary (.str "+") length operands = .ok (.meters 0 false operands) ∧
      evaluate (.meters 0 false operands) e = .ok (.meters 0 false operands) ∧
      Build.computeBinary (.str "+") length values = .ok (.meters 0 false values)) := by
  refine ⟨rfl, ⟨rfl, rfl, rfl⟩, ⟨by with_unfolding_all rfl, rfl⟩, rfl, rfl, rfl⟩

end Deferred
