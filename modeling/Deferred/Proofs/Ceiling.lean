import Deferred.CommandLine.Run
import Deferred.Proofs.Division
import Mathlib.Order.Bounds.Defs

-- How many blocks hold an amount.

set_option autoImplicit false

namespace Deferred

open Outcome

namespace CommandLine

section Least

variable {n d : Int}

theorem le_ediv_mul (positive : 1 ≤ d) : n ≤ (n + d - 1) / d * d := by
  have next := Int.lt_ediv_add_one_mul_self (n + d - 1) (show 0 < d by omega)
  rw [Int.add_mul, Int.one_mul] at next
  omega

theorem ediv_le (positive : 1 ≤ d) {k : Int} (enough : n ≤ k * d) : (n + d - 1) / d ≤ k := by
  have next : (n + d - 1) / d < k + 1 := by
    refine Int.ediv_lt_of_lt_mul (by omega) ?_
    rw [Int.add_mul, Int.one_mul]
    omega
  omega

theorem isLeast_tdiv (positive : 1 ≤ d) (above : -d < n) :
    IsLeast {k : Int | n ≤ k * d} ((n + d - 1).tdiv d) := by
  rw [Int.tdiv_eq_ediv_of_nonneg (by omega)]
  exact ⟨le_ediv_mul positive, fun k => ediv_le positive⟩

end Least

def ceiling (n : Int) (j : Nat) : Item :=
  let size : Item := .placeholder j "block_size" .int
  .binary 0 .div (.binary 0 .sub (.binary 0 .add (.int n) size .int) (.int 1) .int) size .int

variable {n : Int} {j : Nat}

theorem ceiling_format : (ceiling n j).format = "((" ++ toString n ++ "+block_size)-1)/block_size" := by
  have one : (Int.repr 1).toList = ['1'] := by decide
  apply String.toList_injective
  rw [Item.format, String.toList_ofList]
  simp [ceiling, Item.formula, Item.isComposite, Item.parenthesized, Item.literalText, Item.repr,
    BinaryOperator.glyph, toString, one]

theorem ceiling_isWritable : (ceiling n j).isWritable = Item.hasText n := by
  have one : Item.hasText 1 = true := by decide
  simp [ceiling, Item.isWritable, one]

theorem ceiling_integral : (ceiling n j).Integral :=
  .binary (.binary (.binary (.int n) (.placeholder j "block_size")) (.int 1)) (.placeholder j "block_size")

end CommandLine

section

variable [Host]

theorem prepare_integral {s : StaticEnvironment} {x : Item} (integral : x.Integral) (written : x.isWritable)
    (bound : ∀ v ∈ x.declarations, ∃ n, (Environment.static s).BindsInteger v.1 n) (r : Report) :
    ∃ p, (s.prepare x r).result = .ok p ∧ p.evaluate = evaluate x (.static s) := by
  have fits := StaticEnvironment.accept_ok.1 (accept_integral integral (fun _ => written) bound)
  refine StaticEnvironment.prepare_total written fits.2 (fun v occurs => ?_) r
  obtain ⟨n, binds⟩ := bound v occurs
  obtain ⟨w, looked, -⟩ := ((Environment.static s).lookup_integer v.1).flip.result binds.read
  exact ⟨w, by rw [integral.declared v occurs]; exact looked⟩

/-- What an expression comes to in an environment. A static one may prepare it first, on any report. -/
structure ComesTo (e : Environment) (x : Item) (outcome : Except Failure Item) : Prop where
  evaluated : evaluate x e = outcome
  prepared : ∀ s, e = .static s → ∀ r, ∃ p, (s.prepare x r).result = .ok p ∧ p.evaluate = outcome

theorem comesTo_integral {e : Environment} {x : Item} (integral : x.Integral)
    (written : e.isStatic → x.isWritable) (bound : ∀ v ∈ x.declarations, ∃ n, e.BindsInteger v.1 n)
    (composite : x.isComposite) : ComesTo e x ((x.integer e.integer).map .int) where
  evaluated := evaluate_integral integral written bound composite
  prepared := by
    rintro s rfl r
    obtain ⟨p, prepared, outcome⟩ := prepare_integral integral (written rfl) bound r
    exact ⟨p, prepared, outcome.trans (evaluate_integral integral written bound composite)⟩

/-- Neither evaluated nor, in an environment that its constructor accepts, prepared first. -/
structure ComesToNothing (e : Environment) (x : Item) : Prop where
  evaluated : ∃ f, evaluate x e = .error f
  prepared : ∀ bs s, StaticEnvironment.ofBindings bs = .ok s → e = .static s →
    ∀ r, ∃ f, (s.prepare x r).result = .error f

theorem comesToNothing_of_lookup {e : Environment} {x : Item} {v : String × Kind} (occurs : v ∈ x.declarations)
    (coherent : v.2.Coherent) (missing : ∀ w, e.lookup v.1 v.2 ≠ .ok w) : ComesToNothing e x where
  evaluated := by
    cases outcome : evaluate x e with
    | error f => exact ⟨f, rfl⟩
    | ok w =>
      obtain ⟨_, -, done⟩ := bind_ok.1 outcome
      obtain ⟨u, looked⟩ := evaluateWith_strict done v occurs
      exact absurd looked (missing u)
  prepared := by
    rintro bs s made rfl r
    cases outcome : (s.prepare x r).result with
    | error f => exact ⟨f, rfl⟩
    | ok p =>
      obtain ⟨⟨-, fits⟩, -⟩ := StaticEnvironment.prepare_ok outcome
      have sound := StaticEnvironment.ofBindings_sound made
      obtain ⟨u, looked⟩ := StaticEnvironment.lookup_total sound fits occurs coherent
      exact absurd looked (missing u)

namespace CommandLine

variable {e : Environment} {n : Int} {j : Nat}

theorem ceiling_integer {d : Int} (read : e.integer "block_size" = .ok d) :
    (ceiling n j).integer e.integer = BinaryOperator.div.onIntegers (n + d - 1) d := by
  simp only [ceiling, Item.integer, read]
  rfl

theorem ceiling_comesTo {d : Int} (written : e.isStatic → Item.hasText n)
    (binds : e.BindsInteger "block_size" d) :
    ComesTo e (ceiling n j) ((BinaryOperator.div.onIntegers (n + d - 1) d).map .int) := by
  have bound : ∀ v ∈ [("block_size", Kind.int), ("block_size", .int)], ∃ k, e.BindsInteger v.1 k := by
    simp only [List.forall_mem_cons]
    exact ⟨⟨d, binds⟩, ⟨d, binds⟩, nofun⟩
  have fits : e.isStatic → (ceiling n j).isWritable := fun static => ceiling_isWritable.trans (written static)
  have outcome := comesTo_integral (e := e) (x := ceiling n j) ceiling_integral fits bound rfl
  rwa [ceiling_integer binds.read] at outcome

theorem ceiling_comesToNothing (unbound : ∀ w, e.get "block_size" = .ok w → w.int? = none) :
    ComesToNothing e (ceiling n j) := by
  have occurs : ("block_size", Kind.int) ∈ (ceiling n j).declarations := List.mem_cons_self
  refine comesToNothing_of_lookup occurs (Kind.coherent_native rfl) fun w looked => ?_
  obtain ⟨d, read, -⟩ := (e.lookup_integer "block_size").result looked
  obtain ⟨u, value, whole⟩ := Environment.integer_ok.1 read
  rw [unbound u value] at whole
  cases whole

/-- Division of an amount by a size that is bound by name: its text, if the amount has one, and the least number
of blocks that hold the amount, unless it is a whole block or more below zero. A size of zero is a fault of the
division, and where no integer is bound there is no value at all. An environment that checks expressions first
has to write the amount out. -/
theorem ceilDiv_exact (n : Int) (j : Nat) :
    ∃ x, ceilDiv (.int n) (.placeholder j "block_size" .int) = .ok x ∧
      x.isWritable = Item.hasText n ∧ x.format = "((" ++ toString n ++ "+block_size)-1)/block_size" ∧
      ∀ e : Environment,
        ((e.isStatic → Item.hasText n) →
          (∀ d, e.BindsInteger "block_size" d → 1 ≤ d → -d < n →
            ∃ k, IsLeast {k : Int | n ≤ k * d} k ∧ ComesTo e x (.ok (.int k))) ∧
          (e.BindsInteger "block_size" 0 →
            ComesTo e x (.error (.arithmetic (.binary .div) .integerDivision)))) ∧
        ((∀ w, e.get "block_size" = .ok w → w.int? = none) → ComesToNothing e x) := by
  refine ⟨ceiling n j, rfl, ceiling_isWritable, ceiling_format, fun e => ⟨fun written => ⟨?_, ?_⟩,
    ceiling_comesToNothing⟩⟩
  · intro d binds positive above
    refine ⟨_, isLeast_tdiv positive above, ?_⟩
    have outcome := ceiling_comesTo (j := j) written binds
    rwa [BinaryOperator.onIntegers, if_neg (by omega)] at outcome
  · exact ceiling_comesTo written

end CommandLine

end

namespace CommandLine

theorem ceilDiv_exact_boundary :
    let size : Item := .placeholder 3 "block_size" .int
    let typed : StaticEnvironment := ⟨[⟨"block_size", .int 128, some .int⟩]⟩
    let zero : DynamicEnvironment := ⟨[("block_size", .int 0)]⟩
    let text : DynamicEnvironment := ⟨[("block_size", .str "128")]⟩
    (Environment.static typed).BindsInteger "block_size" 128 ∧
      (Environment.dynamic zero).BindsInteger "block_size" 0 ∧
      (∀ w, (Environment.dynamic text).get "block_size" = .ok w → w.int? = none) ∧
      ∃ x y, ceilDiv (.int 12345) size = .ok x ∧ ceilDiv (.int (-127)) size = .ok y ∧
        ComesTo (.static typed) x (.ok (.int 97)) ∧ ComesTo (.static typed) y (.ok (.int 0)) ∧
        ComesTo (.dynamic zero) x (.error (.arithmetic (.binary .div) .integerDivision)) ∧
        ComesToNothing (.dynamic text) x := by
  intro size typed zero text
  have large : (Environment.static typed).BindsInteger "block_size" 128 :=
    ⟨⟨.int 128, rfl, rfl⟩, by rintro _ ⟨⟩; exact ⟨.int, rfl, rfl⟩⟩
  have none : (Environment.dynamic zero).BindsInteger "block_size" 0 := ⟨⟨.int 0, rfl, rfl⟩, nofun⟩
  have other : ∀ w, (Environment.dynamic text).get "block_size" = .ok w → w.int? = .none := by
    rintro w ⟨⟩
    rfl
  obtain ⟨x, built, -, -, counted⟩ := ceilDiv_exact 12345 3
  obtain ⟨y, built', -, -, counted'⟩ := ceilDiv_exact (-127) 3
  obtain ⟨sizes, -⟩ := (counted (.static typed)).1 fun _ => by decide
  obtain ⟨sizes', -⟩ := (counted' (.static typed)).1 fun _ => by decide
  obtain ⟨-, zeros⟩ := (counted (.dynamic zero)).1 nofun
  obtain ⟨k, least, comes⟩ := sizes 128 large (by decide) (by decide)
  obtain ⟨l, least', comes'⟩ := sizes' 128 large (by decide) (by decide)
  obtain rfl : k = 97 := least.unique (isLeast_tdiv (by decide) (by decide))
  obtain rfl : l = 0 := least'.unique (isLeast_tdiv (by decide) (by decide))
  exact ⟨large, none, other, x, y, built, built', comes, comes', zeros none, (counted _).2 other⟩

-- An amount with too many digits is divided, but no check of it can begin.
theorem ceilDiv_unwritten {m : Int} (long : Item.hasText m = false) :
    let s : StaticEnvironment := ⟨[⟨"block_size", .int 128, some .int⟩]⟩
    StaticEnvironment.ofBindings (s.bindings.map StaticEnvironment.raw) = .ok s ∧
      (Environment.static s).BindsInteger "block_size" 128 ∧
      ∃ x, ceilDiv (.int m) (.placeholder 3 "block_size" .int) = .ok x ∧
        evaluate x (.static s) = .error .invalid ∧
        (s.prepare x (.make false 3)).result = .error .invalid := by
  intro s
  have unwritten : (ceiling m 3).isWritable = false := ceiling_isWritable.trans long
  refine ⟨rfl, ⟨⟨.int 128, rfl, rfl⟩, by rintro _ ⟨⟩; exact ⟨.int, rfl, rfl⟩⟩, ceiling m 3, rfl, ?_, ?_⟩
  · rw [evaluate, Environment.accept, vet, unwritten]
    rfl
  · rw [StaticEnvironment.prepare, vet, unwritten]
    rfl

/-- A size that is bound as any value at all is none where it is wanted as an integer, and an amount may be too
long to write out. -/
theorem ceilDiv_refused :
    let s : StaticEnvironment := ⟨[⟨"block_size", .int 128, some .any⟩]⟩
    let t : StaticEnvironment := ⟨[⟨"block_size", .int 128, some .int⟩]⟩
    (StaticEnvironment.ofBindings (s.bindings.map StaticEnvironment.raw) = .ok s ∧
      (Environment.static s).get "block_size" = .ok (.int 128) ∧
      ∃ x, ceilDiv (.int 12345) (.placeholder 3 "block_size" .int) = .ok x ∧
        ∃ why, evaluate x (.static s) = .error (.rejected why)) ∧
    (StaticEnvironment.ofBindings (t.bindings.map StaticEnvironment.raw) = .ok t ∧
      (Environment.static t).BindsInteger "block_size" 128 ∧
      ∃ x, ceilDiv (.int (10 ^ 5000 : Nat)) (.placeholder 3 "block_size" .int) = .ok x ∧
        evaluate x (.static t) = .error .invalid ∧
        (t.prepare x (.make false 3)).result = .error .invalid) :=
  ⟨⟨rfl, rfl, _, rfl, _, rfl⟩, ceilDiv_unwritten (by decide +kernel)⟩

end CommandLine

end Deferred
