import Deferred.Evaluation
import Deferred.Proofs.Admission

-- What environments bind: distinct names, each to a value of the kind bound.

set_option autoImplicit false

namespace Deferred

open Outcome

theorem requireName_ok {name : Item} {n : String} (h : requireName name = .ok n) :
    name = .str n ∧ n ≠ "" := by
  unfold requireName at h
  split at h
  · split at h
    · cases h
    · cases h; simp_all
  · cases h

def Environment.isStatic : Environment → Bool
  | .static _ => true
  | .dynamic _ => false

variable [Host]

theorem bind_named {name value : Item} {declared : Option Declared} {b : Binding}
    (h : bind name value declared = .ok b) : name = .str b.name ∧ b.name ≠ "" := by
  obtain ⟨n, named, rest⟩ := bind_ok.1 h
  obtain ⟨rfl, filled⟩ := requireName_ok named
  split at rest
  · cases rest; exact ⟨rfl, filled⟩
  · cases rest
  · split at rest
    · cases rest; exact ⟨rfl, filled⟩
    · cases rest

theorem bind_conforms {name value : Item} {declared : Option Declared} {b : Binding} {k : Kind}
    (h : bind name value declared = .ok b) (given : declared = some (.kind k)) :
    value.conforms k := by
  obtain ⟨n, -, rest⟩ := bind_ok.1 h
  subst given
  dsimp only at rest
  split at rest
  · assumption
  · cases rest

namespace StaticEnvironment

/-- What the constructor sees to. A kind may be missing, and then nothing is known of the value. -/
structure Sound (bs : List Binding) : Prop where
  distinct : (bs.map Binding.name).Nodup
  named : ∀ b ∈ bs, b.name ≠ ""
  conforms : ∀ b ∈ bs, ∀ k, b.kind = some k → b.value.conforms k

omit [Host] in
theorem requireNew_ok {kept : List Binding} {n : String} (h : requireNew kept (.str n) = .ok ()) :
    n ∉ kept.map Binding.name := by
  intro member
  obtain ⟨c, among, same⟩ := List.mem_map.1 member
  have bound : (kept.any fun c => c.name == n) = true := List.any_eq_true.2 ⟨c, among, by simp [same]⟩
  simp [requireNew, bound] at h

theorem takeUp_sound (kept : List Binding) (b : RawBinding) (grown : List Binding)
    (sound : Sound kept) (h : takeUp kept b = .ok grown) : Sound grown := by
  obtain ⟨_, new, h⟩ := bind_ok.1 h
  obtain ⟨c, bound, h⟩ := bind_ok.1 h
  cases h
  have bound := mapError_ok.1 bound
  obtain ⟨name, filled⟩ := bind_named bound
  rw [name] at new
  have fresh := requireNew_ok new
  refine ⟨?_, ?_, ?_⟩
  · rw [List.map_append, List.nodup_append]
    refine ⟨sound.distinct, by simp, fun m member l last => ?_⟩
    obtain rfl : l = c.name := by simpa [keep] using last
    exact fun same => fresh (same ▸ member)
  · intro d member
    rcases List.mem_append.1 member with member | member
    · exact sound.named d member
    · rw [List.mem_singleton.1 member]; exact filled
  · intro d member k kind
    rcases List.mem_append.1 member with member | member
    · exact sound.conforms d member k kind
    · rw [List.mem_singleton.1 member] at kind ⊢
      refine bind_conforms bound ?_
      unfold keep at kind
      dsimp only at kind
      split at kind
      next given => rw [given, Option.some.inj kind]
      next => cases kind

theorem ofBindings_sound {bs : List RawBinding} {s : StaticEnvironment}
    (made : ofBindings bs = .ok s) : Sound s.bindings := by
  obtain ⟨kept, done, made⟩ := bind_ok.1 made
  cases made
  exact foldlM_invariant takeUp_sound ⟨by simp, by simp, by simp⟩ done

theorem ofBindings_raw {bs : List Binding} (sound : Sound bs) :
    ofBindings (bs.map raw) = .ok ⟨bs⟩ := by
  have step (kept : List Binding) (b : Binding) (member : b ∈ bs)
      (new : b.name ∉ kept.map Binding.name) : takeUp kept (raw b) = .ok (kept ++ [b]) := by
    have fresh : (kept.any fun c => c.name == b.name) = false := by
      simp only [List.any_eq_false, beq_iff_eq]
      exact fun c among same => new (List.mem_map.2 ⟨c, among, same⟩)
    have filled : b.name.isEmpty = false := by simpa using sound.named b member
    have conforms := sound.conforms b member
    obtain ⟨n, w, k⟩ := b
    cases k with
    | none => simp [takeUp, requireNew, raw, bind, requireName, keep, fresh, filled]; rfl
    | some k => simp [takeUp, requireNew, raw, bind, requireName, keep, fresh, filled, conforms k rfl]; rfl
  have all : (bs.map raw).foldlM takeUp [] = .ok ([] ++ bs) :=
    foldlM_appends step (by simpa using sound.distinct)
  unfold ofBindings
  rw [all]
  rfl

omit [Host] in
theorem lookup_signature (s : StaticEnvironment) (n : String) :
    (Environment.static s).signature.lookup n = (s.find? n).map Binding.kind := by
  obtain ⟨bs⟩ := s
  unfold Environment.signature Environment.bindings find?
  induction bs with
  | nil => rfl
  | cons b bs ih =>
    rw [List.map_cons, List.lookup_cons, List.find?_cons, Bool.beq_comm]
    cases b.name == n
    · exact ih
    · rfl

theorem get_admitted {s : StaticEnvironment} (sound : Sound s.bindings) {v : String × Kind}
    (h : Admitted (Environment.static s).signature v) :
    ∃ w, (Environment.static s).get v.1 = .ok w ∧ (v.2.Coherent → w.conforms v.2) := by
  obtain ⟨bound, found, fits⟩ := h
  rw [lookup_signature] at found
  obtain ⟨b, entry, rfl⟩ := Option.map_eq_some_iff.1 found
  refine ⟨b.value, by simp [Environment.get, Environment.get?, get?, entry], fun coherent => ?_⟩
  rcases fits with any | ⟨k, kind, admits⟩
  · rw [any]
    exact b.value.conforms_any
  · exact coherent.conforms (sound.conforms b (List.mem_of_find?_eq_some entry) k kind) admits

theorem lookup_admitted {s : StaticEnvironment} (sound : Sound s.bindings) {v : String × Kind}
    (h : Admitted (Environment.static s).signature v) (coherent : v.2.Coherent) :
    ∃ w, (Environment.static s).get v.1 = .ok w ∧ (Environment.static s).lookup v.1 v.2 = .ok w := by
  obtain ⟨w, value, conforms⟩ := get_admitted sound h
  refine ⟨w, value, ?_⟩
  unfold Environment.lookup
  rw [value]
  exact if_pos (conforms coherent)

end StaticEnvironment

theorem Environment.lookup_conforms {e : Environment} {n : String} {k : Kind} {w : Item}
    (h : e.lookup n k = .ok w) : w.conforms k := by
  obtain ⟨x, -, h⟩ := bind_ok.1 h
  split at h
  · cases h; assumption
  · cases h

end Deferred
