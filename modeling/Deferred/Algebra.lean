import Deferred.Failure
import Deferred.Host

-- The kind of an operator's result, from the kinds of its operands.

set_option autoImplicit false

namespace Deferred.Algebra

def meeting? : Kind → Kind → Option Kind
  -- the kind in which numbers of two kinds meet; decimals meet integers only
  | .bool, .bool | .bool, .int | .int, .bool | .int, .int => some .int
  | .decimal, .decimal | .decimal, .bool | .decimal, .int | .bool, .decimal | .int, .decimal =>
    some .decimal
  | .complex, .bool | .complex, .int | .complex, .float | .complex, .complex | .complex, .fraction
  | .bool, .complex | .int, .complex | .float, .complex | .fraction, .complex => some .complex
  | .float, .bool | .float, .int | .float, .float | .float, .fraction
  | .bool, .float | .int, .float | .fraction, .float => some .float
  | .fraction, .bool | .fraction, .int | .fraction, .fraction | .bool, .fraction | .int, .fraction =>
    some .fraction
  | _, _ => none

def knownUnary? : UnaryOperator → Kind → Option Kind
  | .complement, .bool | .complement, .int => some .int
  | .complement, _ => none
  | _, .bool => some .int
  | _, .str => none
  | _, k => some k

def knownBinary? : BinaryOperator → Kind → Kind → Option Kind
  -- text joins text, repeats a whole number of times, and is a template for any value
  | .add, .str, .str => some .str
  | .mul, .str, .bool | .mul, .str, .int | .mul, .bool, .str | .mul, .int, .str => some .str
  | .mod, .str, _ => some .str
  | .mod, k, l => (meeting? k l).filter (· != .complex)
  | _, k, l => meeting? k l

variable [Host]

def unaryResult (op : UnaryOperator) (k : Kind) : Except Rejection Kind :=
  if k = .any then .ok .any
  else if k.isWellKnown then
    match knownUnary? op k with
    | some r => .ok r
    | none => .error (.unaryKind op k)
  else if k.offersUnary op then .ok .any
  else .error (.unaryKind op k)

def mayMeet (op : BinaryOperator) (l r : Kind) : Bool :=
  (!l.isWellKnown && l.offersLeft op) || (!r.isWellKnown && r.offersRight op)

def binaryResult (op : BinaryOperator) (l r : Kind) : Except Rejection Kind :=
  if l = .any ∨ r = .any then .ok .any
  else if l.isWellKnown && r.isWellKnown then
    match knownBinary? op l r with
    | some k => .ok k
    | none => .error (.binaryKinds op l r)
  else if mayMeet op l r then .ok .any
  else .error (.binaryKinds op l r)

def admits (declared actual : Kind) : Bool :=
  match declared with
  | .foreign c => Host.isSubclass c actual
  | k => actual.within k

@[simp] theorem admits_any (actual : Kind) : admits .any actual = true := Kind.within_any _

theorem admits_native {declared : Kind} (native : declared.isForeign = false) (actual : Kind) :
    admits declared actual = actual.within declared := by
  cases declared <;> first
    | rfl
    | cases native

end Deferred.Algebra

namespace Deferred

variable [Host]

-- The documented law of the two tests: an instance of a subclass, be it only counted as one, is an instance of
-- the class. A class that answers both tests by itself can break it.
def Foreign.Coherent (c : Foreign) : Prop :=
  ∀ (x : Item) (k : Kind), x.conforms k → Host.isSubclass c k → Host.isInstance c x

def Kind.Coherent : Kind → Prop
  | .foreign c => c.Coherent
  | _ => True

theorem Kind.Coherent.conforms {x : Item} {k l : Kind} (coherent : l.Coherent) (value : x.conforms k)
    (admitted : Algebra.admits l k) : x.conforms l := by
  cases native : l.isForeign with
  | true =>
    cases l with
    | foreign c => exact coherent x k value admitted
    | _ => cases native
  | false =>
    rw [Algebra.admits_native native] at admitted
    cases foreign : k.isForeign with
    | true =>
      -- nothing but the widest kind includes a class that is not known
      cases k with
      | foreign c =>
        rcases within_iff.1 admitted with rfl | rfl | above
        · exact Item.conforms_any x
        · cases native
        · cases above
      | _ => cases foreign
    | false =>
      rw [Item.conforms_native x foreign] at value
      rw [Item.conforms_native x native]
      exact within_trans value admitted

-- Whether a value is an instance depends on its own kind alone, as the subclasses are counted.
def Kind.Nominal (k : Kind) : Prop := ∀ x : Item, x.conforms k = Algebra.admits k x.kind

theorem Kind.nominal_native {k : Kind} (native : k.isForeign = false) : k.Nominal := fun x => by
  rw [x.conforms_native native, Algebra.admits_native native]

theorem Kind.coherent_native {k : Kind} (native : k.isForeign = false) : k.Coherent := by
  cases k <;> trivial

end Deferred
