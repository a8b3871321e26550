import Deferred.Proofs.Changes
import Deferred.Proofs.Preparation

-- Static environments through revisions. The constructor keeps bindings as they are given, so one that is given
-- without a kind stays without.

set_option autoImplicit false

namespace Deferred

open Outcome

section

variable [Host]

def Binding.Typed (b : Binding) : Prop := ∃ k, b.kind = some k ∧ b.value.conforms k

theorem bind_typed {name value : Item} {declared : Option Declared} {b : Binding}
    (h : bind name value declared = .ok b) : b.Typed := by
  obtain ⟨n, -, made⟩ := bind_ok.1 h
  split at made
  · cases made
    exact ⟨value.kind, rfl, value.conforms_kind⟩
  · cases made
  next k =>
    split at made
    next conforms =>
      cases made
      exact ⟨k, rfl, conforms⟩
    next => cases made

inductive Revision where
  | set (name value : Item) (declared : Option Declared)
  | erase (name : String)
deriving Repr

namespace StaticEnvironment

def revise (s : StaticEnvironment) : Revision → Except Failure StaticEnvironment
  | .set n w k => s.set n w k
  | .erase n => s.erase n

variable {s t : StaticEnvironment}

theorem takeUp_raw {kept grown : List Binding} {c : RawBinding} (taken : takeUp kept c = .ok grown) :
    grown.map raw = kept.map raw ++ [c] := by
  obtain ⟨_, -, taken⟩ := bind_ok.1 taken
  obtain ⟨b, made, taken⟩ := bind_ok.1 taken
  cases taken
  have made := mapError_ok.1 made
  obtain ⟨named, -⟩ := bind_named made
  obtain ⟨name, value, declared⟩ := c
  obtain rfl : name = .str b.name := named
  match declared with
  | none | some (.kind _) => simp [keep, raw]
  | some (.item x) =>
    obtain ⟨n, -, refused⟩ := bind_ok.1 made
    cases refused

theorem foldlM_raw {bs : List RawBinding} {kept all : List Binding}
    (done : bs.foldlM takeUp kept = .ok all) : all.map raw = kept.map raw ++ bs := by
  induction bs generalizing kept with
  | nil =>
    cases done
    simp
  | cons c bs ih =>
    rw [List.foldlM_cons] at done
    obtain ⟨grown, taken, rest⟩ := bind_ok.1 done
    rw [ih rest, takeUp_raw taken]
    simp

theorem ofBindings_keeps {bs : List RawBinding} (made : ofBindings bs = .ok s) :
    s.bindings.map raw = bs := by
  obtain ⟨all, done, made⟩ := bind_ok.1 made
  cases made
  simpa using foldlM_raw done

theorem Sound.without (sound : Sound s.bindings) (n : String) : Sound (s.without n) where
  distinct := sound.distinct.sublist (List.filter_sublist.map _)
  named b member := sound.named b (List.mem_of_mem_filter member)
  conforms b member := sound.conforms b (List.mem_of_mem_filter member)

theorem Sound.snoc {bs : List Binding} {b : Binding} (sound : Sound bs) (filled : b.name ≠ "")
    (typed : b.Typed) (fresh : b.name ∉ bs.map Binding.name) : Sound (bs ++ [b]) where
  distinct := by
    rw [List.map_append, List.nodup_append]
    refine ⟨sound.distinct, by simp, fun m member l last same => fresh ?_⟩
    obtain rfl : l = b.name := by simpa using last
    exact same ▸ member
  named c member := by
    rcases List.mem_append.1 member with member | member
    · exact sound.named c member
    · simpa [List.mem_singleton.1 member] using filled
  conforms c member k kind := by
    rcases List.mem_append.1 member with member | member
    · exact sound.conforms c member k kind
    · obtain rfl := List.mem_singleton.1 member
      obtain ⟨l, own, conforms⟩ := typed
      obtain rfl : l = k := Option.some.inj (own.symm.trans kind)
      exact conforms

/-- What is true of an environment that comes of `s` by revisions: it is sound, and a binding of it that has no
kind was there from the start. -/
structure Upkeep (s t : StaticEnvironment) : Prop where
  sound : Sound t.bindings
  old : ∀ b ∈ t.bindings, b.Typed ∨ b ∈ s.bindings

theorem Upkeep.revise {u : StaticEnvironment} {r : Revision} (kept : Upkeep s t)
    (taken : t.revise r = .ok u) : Upkeep s u := by
  cases r with
  | set n w k =>
    obtain ⟨fresh, made, rebuilt⟩ := bind_ok.1 taken
    have made := mapError_ok.1 made
    have new : fresh.name ∉ (t.without fresh.name).map Binding.name := by
      simp [without]
    have sound : Sound (t.without fresh.name ++ [fresh]) :=
      (kept.sound.without _).snoc (bind_named made).2 (bind_typed made) new
    cases (ofBindings_raw sound).symm.trans rebuilt
    refine ⟨sound, fun b member => ?_⟩
    rcases List.mem_append.1 member with member | member
    · exact kept.old b (List.mem_of_mem_filter member)
    · rw [List.mem_singleton.1 member]
      exact .inl (bind_typed made)
  | erase n =>
    simp only [StaticEnvironment.revise, StaticEnvironment.erase] at taken
    split at taken
    next =>
      cases (ofBindings_raw (kept.sound.without n)).symm.trans taken
      exact ⟨kept.sound.without n, fun b member => kept.old b (List.mem_of_mem_filter member)⟩
    next => cases taken

theorem Upkeep.run {bs : List RawBinding} (made : ofBindings bs = .ok s) (rs : List Revision) :
    Upkeep s (attempts StaticEnvironment.revise s rs) :=
  attempts_invariant (fun _ _ _ kept taken => kept.revise taken)
    ⟨ofBindings_sound made, fun _ member => .inr member⟩ rs

end StaticEnvironment

def Answers {α : Type} (r : Except Failure α) : Prop :=
  Ensures (fun _ => True) (fun f => ∃ why, f = .rejected why) r

/-- A static environment accepts an item or rejects it, on any report, and prepares it or rejects it. -/
structure StaticEnvironment.Responds (s : StaticEnvironment) (x : Item) : Prop where
  accept : Answers ((Environment.static s).accept x)
  acceptOn r : Answers ((Environment.static s).acceptOn x r).result
  prepare r : Answers (s.prepare x r).result

namespace StaticEnvironment

variable {s : StaticEnvironment}

theorem vet_answers {x : Item} (written : x.isWritable) (typed : ∀ b ∈ s.bindings,
    b.name ∈ (freeVariables x).map Prod.fst → b.Typed) (r : Report) :
    Answers (vet x (Environment.static s).signature r).result := by
  rw [vet, if_pos written]
  by_cases fits : Plausible (Environment.static s).signature x.declarations
  · rw [requirePlausible_accepts r fits]
    trivial
  · rcases requirePlausible_refuses r fits with ⟨why, refused⟩ | ⟨-, v, occurs, kindless⟩
    · rw [refused]
      exact ⟨why, rfl⟩
    · -- only a binding without a kind could have stopped the check
      rw [lookup_signature] at kindless
      obtain ⟨b, found, none⟩ := Option.map_eq_some_iff.1 kindless
      have named : b.name = v.1 := by simpa using List.find?_some found
      have free : b.name ∈ (freeVariables x).map Prod.fst :=
        name_mem_freeVariables.2 (named ▸ List.mem_map_of_mem occurs)
      obtain ⟨k, kind, -⟩ := typed b (List.mem_of_find?_eq_some found) free
      simp [none] at kind

theorem responds {x : Item} (sound : Sound s.bindings) (written : x.isWritable)
    (typed : ∀ b ∈ s.bindings, b.name ∈ (freeVariables x).map Prod.fst → b.Typed) : s.Responds x where
  accept := vet_answers written typed _
  acceptOn r := vet_answers written typed r
  prepare r := by
    have checked := vet_answers written typed r
    simp only [prepare]
    cases result : (vet x (Environment.static s).signature r).result with
    | error f =>
      rw [result] at checked
      exact checked
    | ok u =>
      obtain ⟨-, fits⟩ := vet_ok.1 result
      obtain ⟨p, resolved⟩ := resolve_total fun v occurs =>
        (get_admitted sound (fits.admitted v occurs)).imp fun _ both => both.1
      rw [Except.bind, resolved]
      trivial

/-- Through any revisions, names stay distinct and are never empty, and a binding has a value of its kind unless
it was given to the constructor without one and never set again. An item that can be written out and names no
such binding is accepted or rejected, and prepared or rejected, and fails in no other way. -/
theorem revisions_keep_typed {bs : List RawBinding} (made : ofBindings bs = .ok s)
    (rs : List Revision) :
    let t := attempts revise s rs
    (t.bindings.map Binding.name).Nodup ∧ (∀ b ∈ t.bindings, b.name ≠ "") ∧
      (∀ b ∈ t.bindings, b.Typed ∨ b.kind = none ∧ raw b ∈ bs) ∧
      (∀ x : Item, x.isWritable →
        (∀ b ∈ t.bindings, b.name ∈ (freeVariables x).map Prod.fst → b.Typed) → t.Responds x) ∧
      ((∀ c ∈ bs, c.declared ≠ none) →
        (∀ b ∈ t.bindings, b.Typed) ∧ ∀ x : Item, x.isWritable → t.Responds x) := by
  intro t
  obtain ⟨sound, old⟩ := Upkeep.run made rs
  have initial := ofBindings_sound made
  have bindings : ∀ b ∈ t.bindings, b.Typed ∨ b.kind = none ∧ raw b ∈ bs := by
    intro b member
    rcases old b member with typed | kept
    · exact .inl typed
    · cases kind : b.kind with
      | some k => exact .inl ⟨k, kind, initial.conforms b kept k kind⟩
      | none => exact .inr ⟨rfl, ofBindings_keeps made ▸ List.mem_map_of_mem kept⟩
  refine ⟨sound.distinct, sound.named, bindings, fun x => responds sound, fun declared => ?_⟩
  have typed : ∀ b ∈ t.bindings, b.Typed := fun b member =>
    (bindings b member).resolve_right fun open_kind => declared (raw b) open_kind.2 (by
      simp [raw, open_kind.1])
  exact ⟨typed, fun x written => responds sound written fun b member _ => typed b member⟩

end StaticEnvironment

end

namespace StaticEnvironment

theorem revisions_keep_typed_reset :
    let bs : List RawBinding := [⟨.str "n", .int 5, none⟩, ⟨.str "flag", .bool true, some (.kind .int)⟩]
    let s : StaticEnvironment := ⟨[⟨"n", .int 5, none⟩, ⟨"flag", .bool true, some .int⟩]⟩
    let rs : List Revision := [.set (.str "") (.int 1) none, .set (.str "n") (.float (.infinite false)) none,
      .erase "m", .set (.str "m") .none (some (.kind .any))]
    let t : StaticEnvironment := ⟨[⟨"flag", .bool true, some .int⟩, ⟨"n", .float (.infinite false), some .float⟩,
      ⟨"m", .none, some .any⟩]⟩
    ofBindings bs = .ok s ∧ attempts revise s rs = t ∧ ∀ x : Item, x.isWritable → t.Responds x := by
  intro bs s rs t
  have made : ofBindings bs = .ok s := rfl
  have run : attempts revise s rs = t := rfl
  obtain ⟨-, -, -, answers, -⟩ := revisions_keep_typed made rs
  have typed : ∀ b ∈ t.bindings, b.Typed := by
    simp [t, Binding.Typed, Item.conforms, Item.kind, Kind.within, Kind.parent?]
  exact ⟨made, run, fun x written => run ▸ answers x written fun b member _ => typed b (run ▸ member)⟩

/-- A binding that is given without a kind is kept without, and a check that has to compare its kind fails. -/
theorem ofBindings_kindless :
    let s : StaticEnvironment := ⟨[⟨"x", .int 5, none⟩]⟩
    ofBindings [⟨.str "x", .int 5, none⟩] = .ok s ∧ (∃ b ∈ s.bindings, ¬ b.Typed) ∧
      (Environment.static s).accept (.placeholder 1 "x" .int) = .error .unsupported ∧
      (s.prepare (.placeholder 1 "x" .int) (.make false 3)).result = .error .unsupported := by
  refine ⟨rfl, ⟨⟨"x", .int 5, none⟩, List.mem_singleton_self _, ?_⟩, rfl, rfl⟩
  rintro ⟨k, kind, -⟩
  cases kind

end StaticEnvironment

end Deferred
