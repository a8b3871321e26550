import Deferred.Proofs.Flavor

-- Environments under a run of changes. Both flavors keep the same ordered map, and the history tells what it holds.

set_option autoImplicit false

namespace Deferred

open Outcome

-- Takes steps one after another. A step that fails is left out.
def attempts {α κ : Type} (step : α → κ → Except Failure α) (x : α) : List κ → α
  | [] => x
  | k :: ks =>
    match step x k with
    | .ok y => attempts step y ks
    | .error _ => attempts step x ks

theorem attempts_invariant {α κ : Type} {step : α → κ → Except Failure α} {I : α → Prop}
    (keeps : ∀ x k y, I x → step x k = .ok y → I y) {x : α} (initial : I x) (ks : List κ) :
    I (attempts step x ks) := by
  induction ks generalizing x with
  | nil => exact initial
  | cons k ks ih =>
    rw [attempts]
    split
    next y taken => exact ih (keeps x k y initial taken)
    next => exact ih initial

theorem attempts_map {α β κ : Type} {step : α → κ → Except Failure α} {next : β → κ → Except Failure β}
    {f : α → β} {I : α → Prop} (keeps : ∀ x k y, I x → step x k = .ok y → I y)
    (corresponds : ∀ x k, I x → next (f x) k = (step x k).map f) {x : α} (initial : I x)
    (ks : List κ) : attempts next (f x) ks = f (attempts step x ks) := by
  induction ks generalizing x with
  | nil => rfl
  | cons k ks ih =>
    rw [attempts, attempts, corresponds x k initial]
    cases taken : step x k with
    | error e => exact ih initial
    | ok y => exact ih (keeps x k y initial taken)

inductive Change where
  | set (name : String) (value : Item)
  | erase (name : String)
deriving Repr

namespace Change

def name : Change → String
  | set n _ | erase n => n

-- What a change makes of an ordered map. A name that is set moves to the end.
def outcome (cells : List (String × Item)) : Change → Except Failure (List (String × Item))
  | set n w =>
    if n = "" then .error (.rejected (.unnamedBinding (.str n)))
    else .ok ((cells.filter fun c => c.1 != n) ++ [(n, w)])
  | erase n =>
    if n ∈ cells.map Prod.fst then .ok (cells.filter fun c => c.1 != n) else .error (.unbound n)

end Change

def Environment.change [Host] (e : Environment) : Change → Except Failure Environment
  | .set n w => e.set (.str n) w
  | .erase n => e.erase n

/-- What a static environment and a dynamic one can both be made of. -/
structure Tidy (cells : List (String × Item)) : Prop where
  filled : ∀ c ∈ cells, c.1 ≠ ""
  distinct : (cells.map Prod.fst).Nodup

namespace Tidy

variable {cells : List (String × Item)} {n : String}

theorem without (tidy : Tidy cells) (n : String) : Tidy (cells.filter fun c => c.1 != n) where
  filled c member := tidy.filled c (List.mem_of_mem_filter member)
  distinct := tidy.distinct.sublist (List.filter_sublist.map _)

theorem set (tidy : Tidy cells) (filled : n ≠ "") (w : Item) :
    Tidy ((cells.filter fun c => c.1 != n) ++ [(n, w)]) where
  filled c member := by
    rcases List.mem_append.1 member with member | member
    · exact (tidy.without n).filled c member
    · simpa [List.mem_singleton.1 member] using filled
  distinct := by
    rw [List.map_append, List.nodup_append]
    refine ⟨(tidy.without n).distinct, by simp, ?_⟩
    simp +contextual

theorem outcome {c : Change} {next : List (String × Item)} (tidy : Tidy cells)
    (taken : c.outcome cells = .ok next) : Tidy next := by
  cases c with
  | set n w =>
    simp only [Change.outcome] at taken
    split at taken
    next => cases taken
    next filled =>
      cases taken
      exact tidy.set filled w
  | erase n =>
    simp only [Change.outcome] at taken
    split at taken
    next =>
      cases taken
      exact tidy.without n
    next => cases taken

theorem sound [Host] (tidy : Tidy cells) :
    StaticEnvironment.Sound (DynamicEnvironment.mk cells).toStatic.bindings :=
  DynamicEnvironment.toStatic_sound tidy.filled tidy.distinct

end Tidy

theorem dynamic_change [Host] (cells : List (String × Item)) (c : Change) :
    (Environment.dynamic ⟨cells⟩).change c =
      (c.outcome cells).map fun next => .dynamic ⟨next⟩ := by
  cases c with
  | set n w =>
    by_cases filled : n = ""
    · subst filled
      rfl
    · simp only [Change.outcome, if_neg filled, Environment.change, Environment.set,
        DynamicEnvironment.set, requireName_str filled]
      rfl
  | erase n =>
    have bound : (DynamicEnvironment.mk cells).contains n = true ↔ n ∈ cells.map Prod.fst := by
      simp [DynamicEnvironment.contains]
    by_cases present : n ∈ cells.map Prod.fst
    · simp only [Change.outcome, if_pos present, Environment.change, Environment.erase,
        DynamicEnvironment.erase, if_pos (bound.2 present)]
      rfl
    · simp only [Change.outcome, if_neg present, Environment.change, Environment.erase,
        DynamicEnvironment.erase, if_neg (mt bound.1 present)]
      rfl

theorem without_toStatic (cells : List (String × Item)) (n : String) :
    (DynamicEnvironment.mk cells).toStatic.without n =
      (DynamicEnvironment.mk (cells.filter fun c => c.1 != n)).bindings := by
  simp [StaticEnvironment.without, DynamicEnvironment.toStatic, DynamicEnvironment.bindings,
    List.filter_map, Function.comp_def]

theorem static_change [Host] {cells : List (String × Item)} (tidy : Tidy cells) (c : Change) :
    (Environment.static (DynamicEnvironment.mk cells).toStatic).change c =
      (c.outcome cells).map fun next => .static (DynamicEnvironment.mk next).toStatic := by
  cases c with
  | set n w =>
    by_cases filled : n = ""
    · subst filled
      rfl
    · have bound : bind (.str n) w none = .ok ⟨n, w, some w.kind⟩ := by
        simp only [bind, requireName_str filled]
        rfl
      have grown : (DynamicEnvironment.mk cells).toStatic.without n ++ [⟨n, w, some w.kind⟩] =
          (DynamicEnvironment.mk ((cells.filter fun c => c.1 != n) ++ [(n, w)])).bindings := by
        rw [without_toStatic]
        simp [DynamicEnvironment.bindings]
      have rebuilt := StaticEnvironment.ofBindings_raw (tidy.set filled w).sound
      simp only [Change.outcome, if_neg filled, Environment.change, Environment.set,
        StaticEnvironment.set, bound]
      change (StaticEnvironment.ofBindings _).map Environment.static = _
      rw [grown]
      exact congrArg (Except.map Environment.static) rebuilt
  | erase n =>
    have bound : (DynamicEnvironment.mk cells).toStatic.contains n = true ↔ n ∈ cells.map Prod.fst := by
      simp [StaticEnvironment.contains, DynamicEnvironment.toStatic, DynamicEnvironment.bindings]
    by_cases present : n ∈ cells.map Prod.fst
    · have rebuilt := StaticEnvironment.ofBindings_raw (tidy.without n).sound
      simp only [Change.outcome, if_pos present, Environment.change, Environment.erase,
        StaticEnvironment.erase, if_pos (bound.2 present), without_toStatic]
      exact congrArg (Except.map Environment.static) rebuilt
    · simp only [Change.outcome, if_neg present, Environment.change, Environment.erase,
        StaticEnvironment.erase, if_neg (mt bound.1 present)]
      rfl

def concerned (changes : List Change) (n : String) : Bool := changes.any fun c => c.name == n

@[simp] theorem concerned_nil (n : String) : concerned [] n = false := rfl

@[simp] theorem concerned_cons (c : Change) (changes : List Change) (n : String) :
    concerned (c :: changes) n = (c.name == n || concerned changes n) := rfl

@[simp] theorem concerned_append (earlier later : List Change) (n : String) :
    concerned (earlier ++ later) n = (concerned earlier n || concerned later n) := by
  simp [concerned]

-- The settings that no later change of the same name undoes, in the order in which they were made.
def standing : List Change → List (String × Item)
  | [] => []
  | .set n w :: later =>
    if n = "" ∨ concerned later n then standing later else (n, w) :: standing later
  | .erase _ :: later => standing later

theorem standing_append (earlier later : List Change) :
    standing (earlier ++ later) =
      ((standing earlier).filter fun c => !concerned later c.1) ++ standing later := by
  induction earlier with
  | nil => rfl
  | cons c earlier ih =>
    cases c with
    | set n w =>
      by_cases empty : n = ""
      · simp [standing, empty, ih]
      · cases before : concerned earlier n <;> cases after : concerned later n <;>
          simp [standing, empty, before, after, ih]
    | erase n => simpa [standing] using ih

theorem standing_filled {history : List Change} {c : String × Item} (stands : c ∈ standing history) :
    c.1 ≠ "" ∧ concerned history c.1 := by
  induction history with
  | nil => simp [standing] at stands
  | cons d history ih =>
    cases d with
    | set n w =>
      simp only [standing] at stands
      split at stands
      · simpa using (ih stands).imp_right .inr
      next fresh =>
        rcases List.mem_cons.1 stands with rfl | stands
        · simp_all [Change.name]
        · exact (ih stands).imp_right fun met => by simp [met]
    | erase n => exact (ih stands).imp_right fun met => by simp [met]

-- The name was set to the value, and no change made `later` is about that name.
def LastSet (history : List Change) (c : String × Item) (later : List Change) : Prop :=
  (∃ earlier, history = earlier ++ .set c.1 c.2 :: later) ∧ ∀ d ∈ later, d.name ≠ c.1

theorem concerned_eq_false {changes : List Change} {n : String} :
    concerned changes n = false ↔ ∀ d ∈ changes, d.name ≠ n := by
  simp [concerned]

theorem lastSet_cons {history later : List Change} {c : String × Item} {d : Change} :
    LastSet (d :: history) c later ↔
      (d = .set c.1 c.2 ∧ history = later ∧ concerned history c.1 = false) ∨
        LastSet history c later := by
  rw [concerned_eq_false]
  constructor
  · rintro ⟨⟨earlier, split⟩, quiet⟩
    cases earlier with
    | nil =>
      obtain ⟨rfl, rfl⟩ := List.cons.inj split
      exact .inl ⟨rfl, rfl, quiet⟩
    | cons e earlier => exact .inr ⟨⟨earlier, (List.cons.inj split).2⟩, quiet⟩
  · rintro (⟨rfl, rfl, quiet⟩ | ⟨⟨earlier, rfl⟩, quiet⟩)
    · exact ⟨⟨[], rfl⟩, quiet⟩
    · exact ⟨⟨d :: earlier, rfl⟩, quiet⟩

theorem mem_standing {history : List Change} {c : String × Item} :
    c ∈ standing history ↔ c.1 ≠ "" ∧ ∃ later, LastSet history c later := by
  induction history with
  | nil => simp [standing, LastSet]
  | cons d history ih =>
    have split : (∃ later, LastSet (d :: history) c later) ↔
        (d = .set c.1 c.2 ∧ concerned history c.1 = false) ∨ ∃ later, LastSet history c later := by
      simp [lastSet_cons, exists_or]
    rw [split, and_or_left]
    cases d with
    | set n w =>
      rw [standing]
      by_cases undone : n = "" ∨ concerned history n
      · rw [if_pos undone, ih]
        have other : ¬ (c.1 ≠ "" ∧ Change.set n w = .set c.1 c.2 ∧ concerned history c.1 = false) := by
          rintro ⟨filled, same, quiet⟩
          cases same
          simp [filled, quiet] at undone
        simp only [other, false_or]
      · rw [if_neg undone, List.mem_cons, ih]
        obtain ⟨filled, quiet⟩ := not_or.1 undone
        have own : c = (n, w) ↔
            c.1 ≠ "" ∧ Change.set n w = .set c.1 c.2 ∧ concerned history c.1 = false := by
          constructor
          · rintro rfl
            exact ⟨filled, rfl, by simpa using quiet⟩
          · rintro ⟨-, same, -⟩
            cases same
            rfl
        rw [own]
    | erase n => simp [standing, ih]

theorem standing_ordered (history : List Change) :
    (standing history).Pairwise fun b c =>
      ∀ x y, LastSet history b x → LastSet history c y → y.length < x.length := by
  have within {history later : List Change} {c : String × Item} (last : LastSet history c later) :
      later.length < history.length := by
    obtain ⟨⟨earlier, rfl⟩, -⟩ := last
    simp
    omega
  induction history with
  | nil => exact .nil
  | cons d history ih =>
    -- among the others, the first change is nobody's last setting
    have others {b : String × Item} (stands : b ∈ standing history) {x : List Change}
        (last : LastSet (d :: history) b x) : LastSet history b x := by
      rcases lastSet_cons.1 last with ⟨-, -, quiet⟩ | last
      · simp [(standing_filled stands).2] at quiet
      · exact last
    have tail : (standing history).Pairwise fun b c =>
        ∀ x y, LastSet (d :: history) b x → LastSet (d :: history) c y → y.length < x.length :=
      ih.imp_of_mem fun first second earlier x y lastFirst lastSecond =>
        earlier x y (others first lastFirst) (others second lastSecond)
    cases d with
    | set n w =>
      rw [standing]
      split
      · exact tail
      next fresh =>
        refine List.pairwise_cons.2 ⟨fun c stands x y first second => ?_, tail⟩
        have quiet : concerned history n = false := by simpa using (not_or.1 fresh).2
        rcases lastSet_cons.1 first with ⟨-, rfl, -⟩ | ⟨⟨earlier, rfl⟩, -⟩
        · exact within (others stands second)
        · simp [Change.name] at quiet
    | erase n => exact tail

theorem filter_unconcerned {cells : List (String × Item)} {n : String}
    (absent : n ∉ cells.map Prod.fst) : (cells.filter fun c => c.1 != n) = cells := by
  rw [List.filter_eq_self]
  intro c member
  simpa using fun same : c.1 = n => absent (same ▸ List.mem_map_of_mem member)

theorem standing_snoc (history : List Change) (c : Change) :
    standing (history ++ [c]) =
      ((standing history).filter fun b => b.1 != c.name) ++ standing [c] := by
  rw [standing_append]
  congr 2
  funext b
  simp [bne, Bool.beq_comm]

theorem outcome_standing (history : List Change) (c : Change) :
    c.outcome (standing history) = .ok (standing (history ++ [c])) ∨
      (∃ f, c.outcome (standing history) = .error f) ∧ standing (history ++ [c]) = standing history := by
  rw [standing_snoc]
  cases c with
  | set n w =>
    by_cases empty : n = ""
    · subst empty
      have absent : "" ∉ (standing history).map Prod.fst := fun met => by
        obtain ⟨c, stands, named⟩ := List.mem_map.1 met
        exact (standing_filled stands).1 named
      exact .inr ⟨⟨_, rfl⟩, by simp [standing, Change.name, filter_unconcerned absent]⟩
    · left
      simp [Change.outcome, standing, Change.name, empty]
  | erase n =>
    by_cases present : n ∈ (standing history).map Prod.fst
    · left
      simp only [Change.outcome, if_pos present, standing, Change.name, List.append_nil]
    · right
      simp only [Change.outcome, if_neg present, standing, Change.name, List.append_nil]
      exact ⟨⟨_, rfl⟩, filter_unconcerned present⟩

theorem attempts_standing (history changes : List Change) :
    attempts (fun cells c => c.outcome cells) (standing history) changes =
      standing (history ++ changes) := by
  induction changes generalizing history with
  | nil => simp [attempts]
  | cons c changes ih =>
    rw [List.append_cons, ← ih, attempts]
    rcases outcome_standing history c with taken | ⟨⟨f, failed⟩, same⟩
    · simp only [taken]
    · simp only [failed, same]

theorem standing_tidy (history : List Change) : Tidy (standing history) where
  filled _ stands := (standing_filled stands).1
  distinct := by
    induction history with
    | nil => exact .nil
    | cons d history ih =>
      cases d with
      | set n w =>
        rw [standing]
        split
        · exact ih
        next fresh =>
          rw [List.map_cons, List.nodup_cons]
          refine ⟨fun met => ?_, ih⟩
          obtain ⟨c, stands, rfl⟩ := List.mem_map.1 met
          exact fresh (.inr (standing_filled stands).2)
      | erase n => exact ih

def settings (given : List (String × Item)) : List Change := given.map fun c => .set c.1 c.2

theorem standing_settings {given : List (String × Item)} (tidy : Tidy given) :
    standing (settings given) = given := by
  obtain ⟨filled, distinct⟩ := tidy
  induction given with
  | nil => rfl
  | cons c given ih =>
    rw [List.map_cons, List.nodup_cons] at distinct
    rw [List.forall_mem_cons] at filled
    have fresh : concerned (settings given) c.1 = false := by
      rw [concerned_eq_false, settings, List.forall_mem_map]
      exact fun d member same => distinct.1 (List.mem_map.2 ⟨d, member, same⟩)
    have rest : standing (settings given) = given := ih filled.2 distinct.2
    rw [settings, List.map_cons, ← settings, standing, if_neg (by simp [filled.1, fresh]), rest]

def bound (cells : List (String × Item)) : List Binding := cells.map fun c => ⟨c.1, c.2, some c.2.kind⟩

variable [Host]

/-- All that can be seen of an environment is what the ordered map says, and so is what becomes of it. -/
structure Environment.Holds (e : Environment) (cells : List (String × Item)) : Prop where
  bindings : e.bindings = bound cells
  names : e.names = cells.map Prod.fst
  signature : e.signature = cells.map fun c => (c.1, some c.2.kind)
  get n : e.get n = match cells.lookup n with
    | some w => .ok w
    | none => .error (.unbound n)
  contains n : e.contains n = true ↔ n ∈ cells.map Prod.fst
  change (c : Change) : (e.change c).map Environment.bindings = (c.outcome cells).map bound

theorem dynamic_holds (cells : List (String × Item)) : (Environment.dynamic ⟨cells⟩).Holds cells where
  bindings := rfl
  names := DynamicEnvironment.bindings_name ⟨cells⟩
  signature := by
    simp [Environment.signature, Environment.bindings, DynamicEnvironment.bindings]
  get n := by
    cases found : cells.lookup n <;>
      simp [Environment.get, Environment.get?, DynamicEnvironment.get?, found]
  contains n := by simp [Environment.contains, DynamicEnvironment.contains]
  change c := by
    rw [dynamic_change, map_map]
    rfl

theorem static_holds {cells : List (String × Item)} (tidy : Tidy cells) :
    (Environment.static (DynamicEnvironment.mk cells).toStatic).Holds cells where
  bindings := rfl
  names := DynamicEnvironment.bindings_name ⟨cells⟩
  signature := by
    simp [Environment.signature, Environment.bindings, DynamicEnvironment.toStatic,
      DynamicEnvironment.bindings]
  get n := by
    cases found : cells.lookup n <;>
      simp [Environment.get, Environment.get?, StaticEnvironment.get?, DynamicEnvironment.find?_toStatic,
        DynamicEnvironment.get?, found]
  contains n := by
    simp [Environment.contains, StaticEnvironment.contains, DynamicEnvironment.toStatic,
      DynamicEnvironment.bindings]
  change c := by
    rw [static_change tidy, map_map]
    rfl

/-- Two environments that were given the same values keep the same ordered map through any changes: just what
was set and is not undone, in the order of the last settings. Names that no change is about come first, as they
were given. -/
structure KeptAlike (given : List (String × Item)) (d : DynamicEnvironment) (s : StaticEnvironment)
    (changes : List Change) : Prop where
  dynamic : (attempts Environment.change (.dynamic d) changes).Holds
    (standing (settings given ++ changes))
  static : (attempts Environment.change (.static s) changes).Holds
    (standing (settings given ++ changes))
  next c : Related (fun e f => e.bindings = f.bindings) Eq
    ((attempts Environment.change (.dynamic d) changes).change c)
    ((attempts Environment.change (.static s) changes).change c)
  distinct : ((standing (settings given ++ changes)).map Prod.fst).Nodup
  present c : c ∈ standing (settings given ++ changes) ↔
    c.1 ≠ "" ∧ ∃ later, LastSet (settings given ++ changes) c later
  ordered : (standing (settings given ++ changes)).Pairwise fun b c => ∀ x y,
    LastSet (settings given ++ changes) b x → LastSet (settings given ++ changes) c y →
      y.length < x.length
  untouched : standing (settings given ++ changes) =
    (given.filter fun c => !concerned changes c.1) ++ standing changes

theorem Environment.Holds.change_alike {e f : Environment} {cells : List (String × Item)}
    (left : e.Holds cells) (right : f.Holds cells) (c : Change) :
    Related (fun e f => e.bindings = f.bindings) Eq (e.change c) (f.change c) := by
  have same := (left.change c).trans (right.change c).symm
  generalize e.change c = first at same ⊢
  generalize f.change c = second at same ⊢
  cases first <;> cases second <;> simp_all [Except.map, Related]

omit [Host] in
theorem attempts_given {given : List (String × Item)} (tidy : Tidy given) (changes : List Change) :
    attempts (fun cells c => c.outcome cells) given changes = standing (settings given ++ changes) := by
  simpa [standing_settings tidy] using attempts_standing (settings given) changes

theorem dynamic_run {given : List (String × Item)} (tidy : Tidy given) (changes : List Change) :
    (attempts Environment.change (.dynamic ⟨given⟩) changes).Holds
      (standing (settings given ++ changes)) := by
  have run := attempts_map (f := fun cells => Environment.dynamic ⟨cells⟩) (I := fun _ => True)
    (fun _ _ _ _ _ => trivial) (fun cells c _ => dynamic_change cells c) trivial (x := given) changes
  rw [run, attempts_given tidy]
  exact dynamic_holds _

theorem static_run {given : List (String × Item)} (tidy : Tidy given) (changes : List Change) :
    (attempts Environment.change (.static (DynamicEnvironment.mk given).toStatic) changes).Holds
      (standing (settings given ++ changes)) := by
  have run := attempts_map
    (f := fun cells => Environment.static (DynamicEnvironment.mk cells).toStatic) (I := Tidy)
    (fun _ _ _ => Tidy.outcome) (fun _ c tidy => static_change tidy c) tidy changes
  rw [run, attempts_given tidy]
  exact static_holds (standing_tidy _)

theorem kept_alike {given : List (String × Item)} (tidy : Tidy given) (changes : List Change) :
    KeptAlike given ⟨given⟩ (DynamicEnvironment.mk given).toStatic changes where
  dynamic := dynamic_run tidy changes
  static := static_run tidy changes
  next c := (dynamic_run tidy changes).change_alike (static_run tidy changes) c
  distinct := (standing_tidy _).distinct
  present _ := mem_standing
  ordered := standing_ordered _
  untouched := by rw [standing_append, standing_settings tidy]

omit [Host] in
theorem putInPlace_distinct {cells : List (String × Item)} (distinct : (cells.map Prod.fst).Nodup)
    (n : String) (w : Item) : ((putInPlace cells n w).map Prod.fst).Nodup := by
  by_cases old : n ∈ cells.map Prod.fst
  · have known : (cells.any fun c => c.1 == n) = true := by simpa using old
    have names : ((cells.map fun c => if c.1 == n then (n, w) else c).map Prod.fst) =
        cells.map Prod.fst := by
      rw [List.map_map]
      refine List.map_congr_left fun c _ => ?_
      by_cases own : c.1 = n <;> simp [own]
    rw [putInPlace, if_pos known, names]
    exact distinct
  · rw [putInPlace_new old, List.map_append, List.nodup_append]
    exact ⟨distinct, by simp, fun m member l last => by
      obtain rfl := List.mem_singleton.1 last
      exact fun same => old (same ▸ member)⟩

omit [Host] in
theorem keywords_distinct {pairs : List (Item × Item)} {given : List (String × Item)}
    (named : keywords pairs = .ok given) : (given.map Prod.fst).Nodup := by
  refine foldlM_invariant (I := fun cells => (cells.map Prod.fst).Nodup) ?_ .nil named
  intro cells p grown distinct taken
  split at taken
  · split at taken
    · cases taken
    · cases taken
      exact putInPlace_distinct distinct _ _
  · cases taken

omit [Host] in
theorem DynamicEnvironment.ofList_unnamed {given : List (String × Item)} (unnamed : ∃ c ∈ given, c.1 = "") :
    ofList (named given) = .error (.unnamedBinding (.str "")) := by
  have run (cells : List (String × Item)) : (named given).foldlM (fun cells p => do
      let n ← requireName p.1
      .ok (putInPlace cells n p.2)) cells = .error (.unnamedBinding (.str "")) := by
    induction given generalizing cells with
    | nil => simp at unnamed
    | cons c given ih =>
      rw [named, List.map_cons, List.foldlM_cons]
      by_cases here : c.1 = ""
      · rw [here]
        rfl
      · rw [requireName_str here]
        exact ih (by simpa [here] using unnamed) _
  unfold ofList
  rw [run]
  rfl

theorem StaticEnvironment.ofList_unnamed {given : List (String × Item)} (unnamed : ∃ c ∈ given, c.1 = "") :
    ofList (named given) = .error (.rejected (.unnamedBinding (.str ""))) := by
  have run : ((named given).map fun p => (p.1, p.2, none)).mapM (fun t => bind t.1 t.2.1 t.2.2) =
      .error (.unnamedBinding (.str "")) := by
    induction given with
    | nil => simp at unnamed
    | cons c given ih =>
      rw [named, List.map_cons, List.map_cons, mapM_cons_error]
      by_cases here : c.1 = ""
      · rw [here]
        exact .inl rfl
      · refine .inr ⟨⟨c.1, c.2, some c.2.kind⟩, ?_, ih (by simpa [here] using unnamed)⟩
        simp only [bind, requireName_str here]
        rfl
  unfold ofList ofTyped
  rw [run]
  rfl

/-- Begun empty or over the same values given as keywords, environments of the two flavors are either both
refused, for the same reason, or kept alike through every run of changes. -/
theorem flavors_keep_history (pairs : List (Item × Item)) (changes : List Change) :
    KeptAlike [] .empty .empty changes ∧
      Related (fun d s => ∃ given, keywords pairs = .ok given ∧ KeptAlike given d s changes) Eq
        (DynamicEnvironment.ofKeywords pairs) (StaticEnvironment.ofKeywords pairs) := by
  refine ⟨kept_alike ⟨by simp, by simp⟩ changes, ?_⟩
  unfold DynamicEnvironment.ofKeywords StaticEnvironment.ofKeywords
  cases given : keywords pairs with
  | error f => exact rfl
  | ok cells =>
    have distinct := keywords_distinct given
    by_cases unnamed : ∃ c ∈ cells, c.1 = ""
    · change Related _ _ ((DynamicEnvironment.ofList (named cells)).mapError Failure.rejected)
        (StaticEnvironment.ofList (named cells))
      rw [DynamicEnvironment.ofList_unnamed unnamed, StaticEnvironment.ofList_unnamed unnamed]
      exact rfl
    · have filled : ∀ c ∈ cells, c.1 ≠ "" := fun c member empty => unnamed ⟨c, member, empty⟩
      change Related _ _ ((DynamicEnvironment.ofList (named cells)).mapError Failure.rejected)
        (StaticEnvironment.ofList (named cells))
      rw [DynamicEnvironment.ofList_named filled distinct, StaticEnvironment.ofList_named filled distinct]
      exact ⟨cells, rfl, kept_alike ⟨filled, distinct⟩ changes⟩

end Deferred
