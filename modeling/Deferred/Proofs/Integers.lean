import Deferred.Proofs.Operation
import Deferred.Proofs.Preparation

-- Expressions over the integers: every literal is an integer and every variable is declared one.

set_option autoImplicit false

namespace Deferred

open Outcome

namespace Item

/-- All that is ever entered are nodes, integer literals, and variables declared integers. -/
inductive Integral : Item → Prop
  | int (n : Int) : Integral (.int n)
  | placeholder (s : Nat) (n : String) : Integral (.placeholder s n .int)
  | unary {s : Nat} {op : UnaryOperator} {x : Item} {k : Kind} (operand : Integral x) :
      Integral (.unary s op x k)
  | binary {s : Nat} {op : BinaryOperator} {l r : Item} {k : Kind} (left : Integral l)
      (right : Integral r) : Integral (.binary s op l r k)

theorem Integral.declared {x : Item} (integral : x.Integral) : ∀ v ∈ x.declarations, v.2 = .int := by
  induction integral with
  | int n => exact nofun
  | placeholder s n => simp
  | unary operand ih => simpa using ih
  | binary left right ihl ihr =>
    intro v occurs
    rw [declarations_binary] at occurs
    exact (List.mem_append.1 occurs).elim (ihl v) (ihr v)

end Item

theorem consistent_of_declared {vs : List (String × Kind)} {k : Kind} (declared : ∀ v ∈ vs, v.2 = k) :
    Consistent vs :=
  fun v occurs w other _ => (declared v occurs).trans (declared w other).symm

def UnaryOperator.onInteger : UnaryOperator → Int → Int
  | .plus, n => n
  | .negate, n => -n
  | .complement, n => -n - 1

def BinaryOperator.onIntegers : BinaryOperator → Int → Int → Except Failure Int
  | .add, m, n => .ok (m + n)
  | .sub, m, n => .ok (m - n)
  | .mul, m, n => .ok (m * n)
  | .div, m, n => if n = 0 then .error (.arithmetic (.binary .div) .integerDivision) else .ok (m.tdiv n)
  | .mod, m, n => if n = 0 then .error (.arithmetic (.binary .mod) .integerDivision) else .ok (m.tmod n)

-- The integer that an expression over the integers comes to, its variables given.
def Item.integer (given : String → Except Failure Int) : Item → Except Failure Int
  | .int n => .ok n
  | .placeholder _ n _ => given n
  | .unary _ op x _ => do
    let n ← x.integer given
    .ok (op.onInteger n)
  | .binary _ op l r _ => do
    let m ← l.integer given
    let n ← r.integer given
    op.onIntegers m n
  | _ => .error .unsupported

namespace Item

theorem integer_ensures {F : Failure → Prop} {given : String → Except Failure Int}
    (names : ∀ n, Ensures (fun _ => True) F (given n))
    (zeros : ∀ op, F (.arithmetic (.binary op) .integerDivision)) {x : Item} (integral : x.Integral) :
    Ensures (fun _ => True) F (x.integer given) := by
  induction integral with
  | int n => exact trivial
  | placeholder s n => exact names n
  | unary operand ih => exact ih.bind fun n _ => trivial
  | @binary s op l r k left right ihl ihr =>
    refine ihl.bind fun m _ => ihr.bind fun n _ => ?_
    cases op with
    | div => exact .ite (fun _ => zeros .div) fun _ => trivial
    | mod => exact .ite (fun _ => zeros .mod) fun _ => trivial
    | _ => exact trivial

theorem numeric_of_int {a : Item} {n : Int} (whole : a.int? = some n) : a.numeric? = some (.int n) := by
  cases a <;> cases whole <;> rfl

theorem int_of_conforms_int [Host] {a : Item} : a.conforms .int = true ↔ ∃ n, a.int? = some n := by
  constructor
  · exact int_of_conforms (.inr rfl)
  · rintro ⟨n, whole⟩
    cases a <;> first
      | rfl
      | cases whole

end Item

variable [Host]

theorem applyUnary_integer (op : UnaryOperator) {v : Item} {n : Int} (whole : v.int? = some n) :
    applyUnary op v = .ok (.int (op.onInteger n)) := by
  rw [applyUnary, Item.operateUnary_number op (Item.numeric_of_int whole)]
  cases op <;> rfl

theorem applyBinary_integers (op : BinaryOperator) {v w : Item} {m n : Int} (left : v.int? = some m)
    (right : w.int? = some n) : applyBinary op v w = (op.onIntegers m n).map .int := by
  rw [applyBinary, Item.operateBinary_numbers op (Item.numeric_of_int left) (Item.numeric_of_int right)]
  cases op with
  | div | mod =>
    by_cases zero : n = 0 <;>
      simp [Numeric.apply, Numeric.rem, Numeric.meet, Matched.div, Matched.mod, Matched.quotient_eq_tdiv,
        Matched.remainder_eq_tmod, BinaryOperator.onIntegers, zero, Bind.bind, Except.bind, Except.map,
        Except.mapError, Trouble.during]
  | _ => rfl

namespace Environment

def integer (e : Environment) (name : String) : Except Failure Int :=
  (e.lookup name .int).map fun w => w.int?.getD 0

theorem lookup_integer (e : Environment) (name : String) :
    Related (fun w n => w.int? = some n) Eq (e.lookup name .int) (e.integer name) := by
  unfold integer
  cases looked : e.lookup name .int with
  | error f => exact rfl
  | ok w =>
    obtain ⟨n, whole⟩ := Item.int_of_conforms_int.1 (lookup_conforms looked)
    exact whole.trans (congrArg some (by simp [whole]))

theorem integer_ok {e : Environment} {name : String} {n : Int} :
    e.integer name = .ok n ↔ ∃ w, e.get name = .ok w ∧ w.int? = some n := by
  constructor
  · intro read
    obtain ⟨w, looked, whole⟩ := (e.lookup_integer name).flip.result read
    obtain ⟨u, value, checked⟩ := bind_ok.1 looked
    split at checked
    · cases checked
      exact ⟨w, value, whole⟩
    · cases checked
  · rintro ⟨w, value, whole⟩
    have conforms := Item.int_of_conforms_int.2 ⟨n, whole⟩
    have looked : e.lookup name .int = .ok w := by
      rw [lookup, value]
      exact if_pos conforms
    rw [integer, looked]
    exact congrArg Except.ok (by simp [whole])

/-- The name is bound to a value that counts as the integer, and in a static environment as an integer. -/
structure BindsInteger (e : Environment) (name : String) (n : Int) : Prop where
  value : ∃ w, e.get name = .ok w ∧ w.int? = some n
  typed : ∀ s, e = .static s → ∃ k, e.signature.lookup name = some (some k) ∧ k.within .int

theorem BindsInteger.read {e : Environment} {name : String} {n : Int}
    (binds : e.BindsInteger name n) : e.integer name = .ok n :=
  integer_ok.2 binds.value

theorem bindsInteger_dynamic {d : DynamicEnvironment} {name : String} {n : Int} :
    (dynamic d).BindsInteger name n ↔ (dynamic d).integer name = .ok n :=
  ⟨BindsInteger.read, fun read => ⟨integer_ok.1 read, fun _ other => by cases other⟩⟩

end Environment

theorem evaluateWith_integral (e : Environment) {x : Item} (integral : x.Integral) :
    Related (fun w n => w.int? = some n ∧ (x.isComposite → w = .int n)) Eq
      (evaluateWith e.lookup x) (x.integer e.integer) := by
  induction integral with
  | int n => exact ⟨rfl, nofun⟩
  | placeholder s n =>
    exact (e.lookup_integer n).mono (fun w m whole => ⟨whole, nofun⟩) fun _ _ same => same
  | @unary s op x k operand ih =>
    rw [evaluateWith, Item.integer]
    refine ih.bind fun w n found => ?_
    rw [applyUnary_integer op found.1]
    exact ⟨rfl, fun _ => rfl⟩
  | @binary s op l r k left right ihl ihr =>
    rw [evaluateWith, Item.integer]
    refine ihl.bind fun v m first => ihr.bind fun w n second => ?_
    rw [applyBinary_integers op first.1 second.1]
    cases op.onIntegers m n with
    | ok q => exact ⟨rfl, fun _ => rfl⟩
    | error f => exact rfl

theorem evaluateWith_node (e : Environment) {x : Item} (integral : x.Integral) (composite : x.isComposite) :
    evaluateWith e.lookup x = (x.integer e.integer).map .int := by
  have alike := evaluateWith_integral e integral
  cases evaluated : evaluateWith e.lookup x with
  | ok w =>
    obtain ⟨n, reckoned, -, whole⟩ := alike.result evaluated
    rw [reckoned, whole composite]
    rfl
  | error f =>
    obtain ⟨g, reckoned, rfl⟩ := alike.failure evaluated
    rw [reckoned]
    rfl

end Deferred
