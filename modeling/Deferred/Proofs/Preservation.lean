import Deferred.Proofs.Formation
import Deferred.Proofs.Operation
import Deferred.Proofs.Preparation

-- Values are of the kinds that the nodes promise.

set_option autoImplicit false

namespace Deferred

open Outcome

section

variable [Host]

-- Whatever the lookup gives for a variable of the item conforms to its declaration. All that is prepared on is
-- that it conforms to the kind it was bound as.
def Conforming (look : Lookup) (x : Item) : Prop :=
  ∀ u ∈ x.declarations, ∀ w, look u.1 u.2 = .ok w → u.2.Coherent → w.conforms u.2

namespace Conforming

variable {look : Lookup} {x l r : Item}

theorem operand {s : Nat} {op : UnaryOperator} {k : Kind}
    (conforming : Conforming look (.unary s op x k)) : Conforming look x := by
  rw [Conforming, Item.declarations_unary] at conforming
  exact conforming

theorem operands {s : Nat} {op : BinaryOperator} {k : Kind}
    (conforming : Conforming look (.binary s op l r k)) : Conforming look l ∧ Conforming look r := by
  rw [Conforming, Item.declarations_binary] at conforming
  exact ⟨fun u declared => conforming u (List.mem_append_left _ declared),
    fun u declared => conforming u (List.mem_append_right _ declared)⟩

end Conforming

theorem Environment.conforming (e : Environment) (x : Item) : Conforming e.lookup x :=
  fun _ _ _ looked _ => lookup_conforms looked

namespace Item

def operator? : Item → Option Operator
  | unary _ op _ _ => some (.unary op)
  | binary _ op _ _ _ => some (.binary op)
  | _ => Option.none

def handlesText : Item → Bool
  | binary _ _ l r _ => l.valueKind == .str || r.valueKind == .str
  | _ => false

def fillsTemplate : Item → Bool
  | binary _ .mod l _ _ => l.valueKind == .str
  | _ => false

end Item

-- What the application of a node can fail with: a fault under the name of its operator, a text too long to
-- form, or a template that does not suit its value.
def Failure.ExpectedAt (n : Item) : Failure → Prop
  | .arithmetic op _ => n.operator? = some op
  | .exhausted => n.handlesText
  | .unsupported | .invalid => n.fillsTemplate
  | _ => False

namespace Item.Formed

theorem unary_applies {s : Nat} {op : UnaryOperator} {x v : Item} {k : Kind}
    (formed : Formed (.unary s op x k)) (known : k ≠ .any)
    (operand : x.valueKind.isWellKnown → v.conforms x.valueKind) :
    Ensures (fun w => w.kind = k) (Failure.ExpectedAt (.unary s op x k)) (applyUnary op v) := by
  obtain ⟨wellKnown, result⟩ := formed.unary_known known
  have applied := operateUnary_ensures wellKnown result (operand wellKnown)
  refine applied.mapError fun t fault => ?_
  obtain ⟨f, rfl⟩ := fault
  exact rfl

theorem binary_applies {s : Nat} {op : BinaryOperator} {l r v w : Item} {k : Kind}
    (formed : Formed (.binary s op l r k)) (known : k ≠ .any)
    (left : l.valueKind.isWellKnown → v.conforms l.valueKind)
    (right : r.valueKind.isWellKnown → w.conforms r.valueKind) :
    Ensures (fun u => u.kind = k) (Failure.ExpectedAt (.binary s op l r k)) (applyBinary op v w) := by
  obtain ⟨⟨first, second⟩, result⟩ := formed.binary_known known
  have applied := operateBinary_ensures first second result (left first) (right second)
  refine applied.mapError fun t expected => ?_
  cases t with
  | fault f => exact rfl
  | exhausted =>
    have text : l.valueKind = .str ∨ r.valueKind = .str := expected
    simpa [Failure.ExpectedAt, Trouble.during, handlesText] using text
  | unsupported =>
    obtain ⟨rfl, text⟩ := expected
    simp [Failure.ExpectedAt, Trouble.during, fillsTemplate, text]
  | invalid =>
    obtain ⟨rfl, text⟩ := expected
    simp [Failure.ExpectedAt, Trouble.during, fillsTemplate, text]
  | rejected r => exact expected
  | missingKey => exact expected

theorem value_kind {look : Lookup} {x v : Item} (formed : x.Formed)
    (conforming : Conforming look x) (done : evaluateWith look x = .ok v) :
    (x.valueKind.isWellKnown → v.conforms x.valueKind) ∧
      (x.isComposite → x.valueKind ≠ .any → v.kind = x.valueKind) := by
  -- a node of a well-known kind has operands of well-known kinds, which is what the induction carries
  have node {w : Item} {k : Kind} (same : k ≠ .any → w.kind = k) :
      (k.isWellKnown → w.conforms k) ∧ (true → k ≠ .any → w.kind = k) := by
    refine ⟨fun wellKnown => ?_, fun _ => same⟩
    rw [← same (by rintro rfl; cases wellKnown)]
    exact w.conforms_kind
  induction formed generalizing v with
  | @literal x h =>
    rw [evaluateWith_literal look h] at done
    cases done
    cases x <;> first
      | exact ⟨fun _ => Item.conforms_kind _, nofun⟩
      | cases h
  | @tuple f xs parts ih => cases f <;> exact ⟨nofun, nofun⟩
  | @placeholder s n k made =>
    have native (known : k.isWellKnown) := Kind.coherent_native (Kind.native_of_known known)
    exact ⟨fun known => conforming (n, k) (by simp) v done (native known), nofun⟩
  | @unary s op x k operand made ih =>
    obtain ⟨u, first, applied⟩ := bind_ok.1 done
    have formed : Formed (.unary s op x k) := .unary operand made
    have fits := (ih conforming.operand first).1
    exact node fun known => (formed.unary_applies known fits).result applied
  | @binary s op l r k left right made ihl ihr =>
    obtain ⟨u, first, rest⟩ := bind_ok.1 done
    obtain ⟨w, second, applied⟩ := bind_ok.1 rest
    have formed : Formed (.binary s op l r k) := .binary left right made
    have fits := (ihl conforming.operands.1 first).1
    have fits' := (ihr conforming.operands.2 second).1
    exact node fun known => (formed.binary_applies known fits fits').result applied

end Item.Formed

end

section

attribute [local instance] Host.numbers

end

end Deferred
