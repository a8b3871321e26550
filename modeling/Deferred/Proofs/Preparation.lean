import Deferred.Host.Standard
import Deferred.Proofs.Binding
import Deferred.Proofs.Strictness

-- Prepared expressions. The names and kinds that a preparation checks are never looked at again, and need not be.

set_option autoImplicit false

namespace Deferred

open Outcome

theorem cells_of_mapM {get : String → Except Failure Item} {vs : List (String × Kind)}
    {cells : List (String × Item)}
    (done : vs.mapM (fun v => get v.1 >>= fun w => .ok (v.1, w)) = .ok cells) {n : String}
    (member : n ∈ vs.map Prod.fst) : ∃ w, get n = .ok w ∧ cells.lookup n = some w := by
  induction vs generalizing cells with
  | nil => simp at member
  | cons v vs ih =>
    obtain ⟨cell, rest, first, others, rfl⟩ := mapM_cons_ok.1 done
    obtain ⟨w, value, made⟩ := bind_ok.1 first
    cases made
    by_cases same : n = v.1
    · exact ⟨w, same ▸ value, by simp [same]⟩
    · obtain ⟨u, found, kept⟩ := ih others (by simpa [same] using member)
      exact ⟨u, found, by rw [List.lookup_cons, beq_false_of_ne same]; exact kept⟩

section

variable [Host]

namespace StaticEnvironment

omit [Host] in
theorem resolve_ok {s : StaticEnvironment} {x : Item} {p : Prepared} (h : s.resolve x = .ok p) :
    p.item = x ∧ ∀ v ∈ x.declarations,
      ∃ w, (Environment.static s).get v.1 = .ok w ∧ p.lookup v.1 v.2 = .ok w := by
  obtain ⟨cells, done, made⟩ := bind_ok.1 h
  cases made
  refine ⟨rfl, fun v occurs => ?_⟩
  have free := name_mem_freeVariables.2 (List.mem_map_of_mem occurs)
  obtain ⟨w, value, kept⟩ := cells_of_mapM done free
  exact ⟨w, value, by simp [Prepared.lookup, kept]⟩

theorem prepare_ok {s : StaticEnvironment} {x : Item} {r : Report} {p : Prepared}
    (h : (s.prepare x r).result = .ok p) :
    (x.isWritable ∧ Plausible (Environment.static s).signature x.declarations) ∧ s.resolve x = .ok p := by
  obtain ⟨_, accepted, resolved⟩ := bind_ok.1 h
  exact ⟨vet_ok.1 accepted, resolved⟩

theorem accept_ok {s : StaticEnvironment} {x : Item} :
    (Environment.static s).accept x = .ok () ↔
      x.isWritable ∧ Plausible (Environment.static s).signature x.declarations :=
  vet_ok

theorem lookup_total {s : StaticEnvironment} {x : Item} (sound : Sound s.bindings)
    (fits : Plausible (Environment.static s).signature x.declarations) {v : String × Kind}
    (occurs : v ∈ x.declarations) (coherent : v.2.Coherent) :
    ∃ w, (Environment.static s).lookup v.1 v.2 = .ok w := by
  obtain ⟨w, -, looked⟩ := lookup_admitted sound (fits.admitted v occurs) coherent
  exact ⟨w, looked⟩

omit [Host] in
theorem resolve_total {s : StaticEnvironment} {x : Item}
    (bound : ∀ v ∈ x.declarations, ∃ w, (Environment.static s).get v.1 = .ok w) :
    ∃ p, s.resolve x = .ok p := by
  cases resolved : s.resolve x with
  | ok p => exact ⟨p, rfl⟩
  | error f =>
    rcases bind_error.1 resolved with failed | ⟨cells, -, made⟩
    · obtain ⟨v, free, missing⟩ := mapM_culprit failed
      obtain ⟨w, value⟩ := bound v (mem_declarations_of_free free)
      rw [value] at missing
      cases missing
    · cases made

-- What is admitted and can be looked up is prepared, and evaluates as it does in the environment.
theorem prepare_total {s : StaticEnvironment} {x : Item} (written : x.isWritable)
    (fits : Plausible (Environment.static s).signature x.declarations)
    (values : ∀ v ∈ x.declarations, ∃ w, (Environment.static s).lookup v.1 v.2 = .ok w) (r : Report) :
    ∃ p, (s.prepare x r).result = .ok p ∧ p.evaluate = evaluate x (.static s) := by
  have bound : ∀ v ∈ x.declarations, ∃ w, (Environment.static s).get v.1 = .ok w ∧
      (Environment.static s).lookup v.1 v.2 = .ok w := fun v occurs => by
    obtain ⟨w, looked⟩ := values v occurs
    obtain ⟨u, value, checked⟩ := bind_ok.1 looked
    split at checked
    · cases checked
      exact ⟨w, value, looked⟩
    · cases checked
  obtain ⟨p, resolved⟩ := resolve_total fun v occurs => (bound v occurs).imp fun _ both => both.1
  refine ⟨p, by rw [prepare, vet_ok.2 ⟨written, fits⟩]; exact resolved, ?_⟩
  obtain ⟨same, cells⟩ := resolve_ok resolved
  rw [Prepared.evaluate, same, evaluate, accept_ok.2 ⟨written, fits⟩]
  refine evaluateWith_congr x fun v occurs => ?_
  obtain ⟨w, value, kept⟩ := cells v occurs
  obtain ⟨u, value', looked⟩ := bound v occurs
  cases value.symm.trans value'
  exact kept.trans looked.symm

end StaticEnvironment

end

def integral : Foreign := ⟨1, "Integral"⟩

@[reducible] def Host.numbers : Host where
  __ := standard
  isInstance c x := c == integral && x.kind.within .int
  isSubclass c k := c == integral && k.within .int
  offersUnary c _ := c == integral
  offersLeft c _ := c == integral
  offersRight c _ := c == integral

section

attribute [local instance] Host.numbers

end

end Deferred
