import Deferred.Operator

-- Kinds of value: their names, and which kind includes which.

set_option autoImplicit false

namespace Deferred

/-- A class that values are declared of but that none is made of here: an abstract class, or one of another
program. -/
structure Foreign where
  serial : Nat
  name : String
deriving DecidableEq, Repr, Inhabited

inductive Kind where
  | bool | int | float | complex | fraction | decimal | str
  -- includes every kind; every operator applies to it and yields it again
  | any
  | tuple | pair | shape | list | dict | set | bytes | none | ellipsis
  | meters | kilometers | clock | celsius
  | placeholder | unaryNode | binaryNode
  | foreign (c : Foreign)
deriving DecidableEq, Repr, Inhabited

namespace Kind

def name : Kind → String
  | bool => "bool" | int => "int" | float => "float" | complex => "complex"
  | fraction => "Fraction" | decimal => "Decimal" | str => "str" | any => "object"
  | tuple => "tuple" | pair => "Pair" | shape => "Shape" | list => "list" | dict => "dict"
  | set => "set" | bytes => "bytes" | none => "NoneType" | ellipsis => "ellipsis"
  | meters => "Meters" | kilometers => "Kilometers" | clock => "Clock" | celsius => "Celsius"
  | placeholder => "Variable" | unaryNode => "UnaryOp" | binaryNode => "BinaryOp"
  | foreign c => c.name

def all : List Kind :=
  [bool, int, float, complex, fraction, decimal, str, any, tuple, pair, shape, list, dict, set, bytes,
    none, ellipsis, meters, kilometers, clock, celsius, placeholder, unaryNode, binaryNode]

def ofName? (s : String) : Option Kind := all.find? fun k => k.name == s

def isForeign : Kind → Bool
  | foreign _ => true
  | _ => false

def isWellKnown : Kind → Bool
  | bool | int | float | complex | fraction | decimal | str => true
  | _ => false

theorem native_of_known {k : Kind} (known : k.isWellKnown) : k.isForeign = false := by
  cases k <;> first
    | rfl
    | cases known

def parent? : Kind → Option Kind
  | bool | celsius => some int
  | kilometers => some meters
  | pair | shape => some tuple
  | _ => Option.none

def within (k l : Kind) : Bool := l == any || k == l || k.parent? == some l

@[simp] theorem within_any (k : Kind) : k.within any = true := by simp [within]

@[simp] theorem within_self (k : Kind) : k.within k = true := by simp [within]

theorem within_iff {k l : Kind} :
    k.within l = true ↔ l = any ∨ k = l ∨ k.parent? = some l := by
  simp [within, or_assoc]

theorem parent?_parent? {k l : Kind} (h : k.parent? = some l) : l.parent? = Option.none := by
  cases k <;> simp_all [parent?] <;> subst h <;> rfl

theorem within_trans {k l m : Kind} (h : k.within l = true) (g : l.within m = true) :
    k.within m = true := by
  rw [within_iff] at *
  rcases g with g | g | g
  · exact .inl g
  · exact g ▸ h
  · rcases h with h | h | h
    · subst h; simp [parent?] at g
    · exact .inr (.inr (h ▸ g))
    · rw [parent?_parent? h] at g; simp at g

end Kind

end Deferred
