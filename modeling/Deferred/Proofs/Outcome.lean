import Mathlib.Data.List.Forall2

-- Steps that can fail, one after another: what a sequence of them yields, and where it fails.

set_option autoImplicit false

namespace Deferred.Outcome

variable {ε α β : Type}

theorem bind_ok {r : Except ε α} {f : α → Except ε β} {y : β} :
    (r >>= f) = .ok y ↔ ∃ x, r = .ok x ∧ f x = .ok y := by
  cases r <;> simp [bind, Except.bind]

theorem bind_error {r : Except ε α} {f : α → Except ε β} {e : ε} :
    (r >>= f) = .error e ↔ r = .error e ∨ ∃ x, r = .ok x ∧ f x = .error e := by
  cases r <;> simp [bind, Except.bind]

theorem map_ok {r : Except ε α} {f : α → β} {y : β} : r.map f = .ok y ↔ ∃ x, r = .ok x ∧ f x = y := by
  cases r <;> simp [Except.map]

theorem map_error {r : Except ε α} {f : α → β} {e : ε} :
    r.map f = .error e ↔ r = .error e := by
  cases r <;> simp [Except.map]

theorem map_map {γ : Type} (r : Except ε α) (f : α → β) (g : β → γ) :
    (r.map f).map g = r.map (g ∘ f) := by
  cases r <;> rfl

theorem mapError_ok {δ : Type} {r : Except ε α} {f : ε → δ} {x : α} :
    r.mapError f = .ok x ↔ r = .ok x := by
  cases r with
  | ok y => exact ⟨fun same => congrArg Except.ok (Except.ok.inj same), fun same => congrArg _ same⟩
  | error e => exact ⟨nofun, nofun⟩

theorem mapError_error {δ : Type} {r : Except ε α} {f : ε → δ} {d : δ} :
    r.mapError f = .error d ↔ ∃ e, r = .error e ∧ f e = d := by
  cases r with
  | ok y => exact ⟨nofun, nofun⟩
  | error e =>
    constructor
    · intro same
      exact ⟨e, rfl, Except.error.inj same⟩
    · rintro ⟨_, ⟨⟩, rfl⟩
      rfl

theorem mapM_cons_ok {f : α → Except ε β} {x : α} {xs : List α} {ys : List β} :
    (x :: xs).mapM f = .ok ys ↔ ∃ y zs, f x = .ok y ∧ xs.mapM f = .ok zs ∧ y :: zs = ys := by
  simp [List.mapM_cons, bind_ok, pure, Except.pure]

theorem mapM_cons_error {f : α → Except ε β} {x : α} {xs : List α} {e : ε} :
    (x :: xs).mapM f = .error e ↔
      f x = .error e ∨ ∃ y, f x = .ok y ∧ xs.mapM f = .error e := by
  simp [List.mapM_cons, bind_error, pure, Except.pure]

theorem mapM_congr {f g : α → Except ε β} {xs : List α} (same : ∀ x ∈ xs, f x = g x) :
    xs.mapM f = xs.mapM g := by
  induction xs with
  | nil => rfl
  | cons x xs ih =>
    rw [List.mapM_cons, List.mapM_cons, same x List.mem_cons_self,
      ih fun y member => same y (List.mem_cons_of_mem _ member)]

theorem mapM_each {f : α → Except ε β} {xs : List α} {ys : List β} (done : xs.mapM f = .ok ys) :
    ∀ x ∈ xs, ∃ y, f x = .ok y := by
  induction xs generalizing ys with
  | nil => simp
  | cons x xs ih =>
    obtain ⟨y, zs, head, tail, -⟩ := mapM_cons_ok.1 done
    intro z member
    rcases List.mem_cons.1 member with rfl | member
    · exact ⟨y, head⟩
    · exact ih tail z member

theorem mapM_source {f : α → Except ε β} {xs : List α} {ys : List β} (done : xs.mapM f = .ok ys) :
    ∀ y ∈ ys, ∃ x ∈ xs, f x = .ok y := by
  induction xs generalizing ys with
  | nil =>
    cases done
    simp
  | cons x xs ih =>
    obtain ⟨z, zs, head, tail, rfl⟩ := mapM_cons_ok.1 done
    intro y member
    rcases List.mem_cons.1 member with rfl | member
    · exact ⟨x, List.mem_cons_self, head⟩
    · obtain ⟨w, among, made⟩ := ih tail y member
      exact ⟨w, List.mem_cons_of_mem _ among, made⟩

theorem mapM_culprit {f : α → Except ε β} {xs : List α} {e : ε} (failed : xs.mapM f = .error e) :
    ∃ x ∈ xs, f x = .error e := by
  induction xs with
  | nil => simp [pure, Except.pure] at failed
  | cons x xs ih =>
    rcases mapM_cons_error.1 failed with head | ⟨_, -, tail⟩
    · exact ⟨x, List.mem_cons_self, head⟩
    · obtain ⟨z, member, culprit⟩ := ih tail
      exact ⟨z, List.mem_cons_of_mem _ member, culprit⟩

theorem mapM_error {f : α → Except ε β} {xs : List α} {e : ε} :
    xs.mapM f = .error e ↔ ∃ before x after, xs = before ++ x :: after ∧
      (∀ y ∈ before, ∃ z, f y = .ok z) ∧ f x = .error e := by
  constructor
  · intro failed
    induction xs with
    | nil => cases failed
    | cons x xs ih =>
      rcases mapM_cons_error.1 failed with here | ⟨z, passed, later⟩
      · exact ⟨[], x, xs, rfl, nofun, here⟩
      · obtain ⟨before, y, after, rfl, passed', stopped⟩ := ih later
        exact ⟨x :: before, y, after, rfl, List.forall_mem_cons.2 ⟨⟨z, passed⟩, passed'⟩, stopped⟩
  · rintro ⟨before, x, after, rfl, passed, stopped⟩
    induction before with
    | nil => exact mapM_cons_error.2 (.inl stopped)
    | cons y before ih =>
      obtain ⟨⟨z, here⟩, rest⟩ := List.forall_mem_cons.1 passed
      exact mapM_cons_error.2 (.inr ⟨z, here, ih rest⟩)

theorem mapM_error_of_some {f g : α → Except ε β} {xs : List α} {ys : List β} {e : ε}
    (done : xs.mapM f = .ok ys) (each : ∀ x ∈ xs, g x = f x ∨ g x = .error e)
    (failed : ∃ x ∈ xs, g x = .error e) : xs.mapM g = .error e := by
  induction xs generalizing ys with
  | nil => simp at failed
  | cons x xs ih =>
    obtain ⟨y, zs, head, tail, -⟩ := mapM_cons_ok.1 done
    rw [List.forall_mem_cons] at each
    rw [mapM_cons_error]
    rcases each.1 with same | stopped
    · refine .inr ⟨y, same.trans head, ih tail each.2 ?_⟩
      simpa [same, head] using failed
    · exact .inl stopped

theorem mapM_ok {f : α → Except ε β} {xs : List α} {ys : List β} :
    xs.mapM f = .ok ys ↔ List.Forall₂ (fun x y => f x = .ok y) xs ys := by
  induction xs generalizing ys with
  | nil => cases ys <;> simp [pure, Except.pure]
  | cons x xs ih =>
    rw [mapM_cons_ok, List.forall₂_cons_left_iff]
    constructor
    · rintro ⟨y, zs, head, tail, rfl⟩
      exact ⟨y, zs, head, ih.1 tail, rfl⟩
    · rintro ⟨y, zs, head, tail, rfl⟩
      exact ⟨y, zs, head, ih.2 tail, rfl⟩

theorem foldlM_invariant {I : β → Prop} {f : β → α → Except ε β} {xs : List α} {start last : β}
    (step : ∀ y x z, I y → f y x = .ok z → I z) (initial : I start)
    (done : xs.foldlM f start = .ok last) : I last := by
  induction xs generalizing start with
  | nil => cases done; exact initial
  | cons x xs ih =>
    rw [List.foldlM_cons] at done
    obtain ⟨next, first, rest⟩ := bind_ok.1 done
    exact ih (step start x next initial first) rest

theorem foldlM_each {f : β → α → Except ε β} {xs : List α} {start last : β}
    (done : xs.foldlM f start = .ok last) : ∀ x ∈ xs, ∃ y z, f y x = .ok z := by
  induction xs generalizing start with
  | nil => simp
  | cons x xs ih =>
    rw [List.foldlM_cons] at done
    obtain ⟨next, first, rest⟩ := bind_ok.1 done
    intro z member
    rcases List.mem_cons.1 member with rfl | member
    · exact ⟨start, next, first⟩
    · exact ih rest z member

theorem foldlM_error {f : β → α → Except ε β} {xs : List α} {start : β} {e : ε} :
    xs.foldlM f start = .error e ↔ ∃ before x after y, xs = before ++ x :: after ∧
      before.foldlM f start = .ok y ∧ f y x = .error e := by
  constructor
  · intro failed
    induction xs generalizing start with
    | nil => cases failed
    | cons x xs ih =>
      rw [List.foldlM_cons] at failed
      rcases bind_error.1 failed with here | ⟨next, first, later⟩
      · exact ⟨[], x, xs, start, rfl, rfl, here⟩
      · obtain ⟨before, z, after, y, rfl, passed, stopped⟩ := ih later
        refine ⟨x :: before, z, after, y, rfl, ?_, stopped⟩
        rw [List.foldlM_cons]
        exact bind_ok.2 ⟨next, first, passed⟩
  · rintro ⟨before, x, after, y, rfl, passed, stopped⟩
    rw [List.foldlM_append]
    refine bind_error.2 (.inr ⟨y, passed, ?_⟩)
    rw [List.foldlM_cons]
    exact bind_error.2 (.inl stopped)

theorem foldlM_appends {κ : Type} {f : List β → α → Except ε (List β)} {g : β → α} {key : β → κ}
    {xs ys : List β} (step : ∀ ys, ∀ x ∈ xs, key x ∉ ys.map key → f ys (g x) = .ok (ys ++ [x]))
    (distinct : ((ys ++ xs).map key).Nodup) : (xs.map g).foldlM f ys = .ok (ys ++ xs) := by
  induction xs generalizing ys with
  | nil => simp [pure, Except.pure]
  | cons x xs ih =>
    have new : key x ∉ ys.map key := by
      rw [List.map_append, List.nodup_append] at distinct
      exact fun old => distinct.2.2 _ old (key x) (by simp) rfl
    rw [List.append_cons] at distinct ⊢
    rw [List.map_cons, List.foldlM_cons, step ys x List.mem_cons_self new]
    exact ih (fun zs y member => step zs y (List.mem_cons_of_mem _ member)) distinct

def Ensures (Q : α → Prop) (E : ε → Prop) : Except ε α → Prop
  | .ok x => Q x
  | .error e => E e

namespace Ensures

variable {Q : α → Prop} {E : ε → Prop} {r : Except ε α}

theorem bind {P : β → Prop} {f : α → Except ε β} (h : Ensures Q E r)
    (next : ∀ x, Q x → Ensures P E (f x)) : Ensures P E (r >>= f) := by
  cases r with
  | ok x => exact next x h
  | error e => exact h

theorem map {P : β → Prop} {f : α → β} (h : Ensures Q E r) (next : ∀ x, Q x → P (f x)) :
    Ensures P E (r.map f) := by
  cases r with
  | ok x => exact next x h
  | error e => exact h

theorem mapError {δ : Type} {F : δ → Prop} {f : ε → δ} (h : Ensures Q E r)
    (next : ∀ e, E e → F (f e)) : Ensures Q F (r.mapError f) := by
  cases r with
  | ok x => exact h
  | error e => exact next e h

theorem result {x : α} (h : Ensures Q E r) (done : r = .ok x) : Q x := by
  rw [done] at h
  exact h

theorem failure {e : ε} (h : Ensures Q E r) (failed : r = .error e) : E e := by
  rw [failed] at h
  exact h

theorem ite {c : Prop} [Decidable c] {a b : Except ε α} (yes : c → Ensures Q E a)
    (no : ¬c → Ensures Q E b) : Ensures Q E (if c then a else b) := by
  split
  · exact yes ‹c›
  · exact no ‹¬c›

theorem mono {P : α → Prop} {F : ε → Prop} (h : Ensures Q E r) (result : ∀ x, Q x → P x)
    (failure : ∀ e, E e → F e) : Ensures P F r := by
  cases r with
  | ok x => exact result x h
  | error e => exact failure e h

end Ensures

-- Both fail, in related ways, or both succeed, with related results.
def Related {δ γ : Type} (R : α → γ → Prop) (S : ε → δ → Prop) : Except ε α → Except δ γ → Prop
  | .ok x, .ok y => R x y
  | .error e, .error d => S e d
  | _, _ => False

namespace Related

variable {γ δ ζ : Type} {R : α → γ → Prop} {S : ε → δ → Prop} {r : Except ε α} {s : Except δ γ}

theorem bind {T : β → ζ → Prop} {f : α → Except ε β} {g : γ → Except δ ζ} (h : Related R S r s)
    (next : ∀ x y, R x y → Related T S (f x) (g y)) : Related T S (r >>= f) (s >>= g) := by
  match r, s, h with
  | .ok x, .ok y, h => exact next x y h
  | .error e, .error d, h => exact h

theorem bindWith {T : β → ζ → Prop} {f : α → Except ε β} {g : γ → Except δ ζ} (h : Related R S r s)
    (next : ∀ x y, r = .ok x → s = .ok y → R x y → Related T S (f x) (g y)) :
    Related T S (r >>= f) (s >>= g) := by
  match r, s, h with
  | .ok x, .ok y, h => exact next x y rfl rfl h
  | .error e, .error d, h => exact h

theorem map {T : β → ζ → Prop} {f : α → β} {g : γ → ζ} (h : Related R S r s)
    (next : ∀ x y, R x y → T (f x) (g y)) : Related T S (r.map f) (s.map g) := by
  match r, s, h with
  | .ok x, .ok y, h => exact next x y h
  | .error e, .error d, h => exact h

theorem mapError {η θ : Type} {T : η → θ → Prop} {f : ε → η} {g : δ → θ} (h : Related R S r s)
    (next : ∀ e d, S e d → T (f e) (g d)) : Related R T (r.mapError f) (s.mapError g) := by
  match r, s, h with
  | .ok x, .ok y, h => exact h
  | .error e, .error d, h => exact next e d h

theorem mono {T : α → γ → Prop} {U : ε → δ → Prop} (h : Related R S r s)
    (result : ∀ x y, R x y → T x y) (failure : ∀ e d, S e d → U e d) : Related T U r s := by
  match r, s, h with
  | .ok x, .ok y, h => exact result x y h
  | .error e, .error d, h => exact failure e d h

theorem common {r₁ r₂ s : Except ε α} {R : α → α → Prop} (h : Related R Eq r₁ s)
    (g : Related R Eq r₂ s) (join : ∀ x y z, R x z → R y z → R x y) : Related R Eq r₁ r₂ := by
  match r₁, r₂, s, h, g with
  | .ok x, .ok y, .ok z, h, g => exact join x y z h g
  | .error e, .error d, .error c, h, g => exact h.trans g.symm

theorem flip (h : Related R S r s) : Related (fun y x => R x y) (fun d e => S e d) s r := by
  match r, s, h with
  | .ok x, .ok y, h => exact h
  | .error e, .error d, h => exact h

theorem trans {T : γ → ζ → Prop} {U : α → ζ → Prop} {η : Type} {t : Except η ζ}
    (h : Related R (fun _ _ => True) r s) (g : Related T (fun _ _ => True) s t)
    (join : ∀ x y z, R x y → T y z → U x z) : Related U (fun _ _ => True) r t := by
  match r, s, t, h, g with
  | .ok x, .ok y, .ok z, h, g => exact join x y z h g
  | .error e, .error d, .error c, h, g => trivial

theorem eq {r s : Except ε α} : Related Eq Eq r s ↔ r = s := by
  cases r <;> cases s <;> simp [Related]

theorem of_eq {R : α → α → Prop} {S : ε → ε → Prop} {r s : Except ε α} (same : r = s)
    (result : ∀ x, R x x) (failure : ∀ e, S e e) : Related R S r s := by
  subst same
  cases r with
  | ok x => exact result x
  | error e => exact failure e

theorem mapM {η θ : Type} {T : β → θ → Prop} {f : α → Except ε β} {g : η → Except δ θ} {xs : List α}
    {ys : List η} (each : List.Forall₂ (fun x y => Related T S (f x) (g y)) xs ys) :
    Related (List.Forall₂ T) S (xs.mapM f) (ys.mapM g) := by
  induction each with
  | nil => exact .nil
  | cons head tail ih =>
    rw [List.mapM_cons, List.mapM_cons]
    exact head.bind fun _ _ first => ih.bind fun _ _ rest => .cons first rest

theorem result {x : α} (h : Related R S r s) (done : r = .ok x) : ∃ y, s = .ok y ∧ R x y := by
  subst done
  cases s with
  | ok y => exact ⟨y, rfl, h⟩
  | error d => cases h

theorem failure {e : ε} (h : Related R S r s) (failed : r = .error e) : ∃ d, s = .error d ∧ S e d := by
  subst failed
  cases s with
  | ok y => cases h
  | error d => exact ⟨d, rfl, h⟩

end Related

end Deferred.Outcome
