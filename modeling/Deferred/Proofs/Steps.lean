import Deferred.Proofs.Flavor

-- Evaluation step by step: from left to right, an operator after the steps of its operands.

set_option autoImplicit false

namespace Deferred

open Outcome

inductive Step where
  | keep (x : Item)
  | look (name : String) (kind : Kind)
  | unary (op : UnaryOperator)
  | binary (op : BinaryOperator)
  -- makes a tuple of the values on top
  | gather (form : TupleForm) (n : Nat)
deriving Repr

namespace Step

def declaration? : Step → Option (String × Kind)
  | look n k => some (n, k)
  | _ => none

def operator? : Step → Option Operator
  | unary op => some (.unary op)
  | binary op => some (.binary op)
  | _ => none

end Step

namespace Item

mutual

def steps : Item → List Step
  | .placeholder _ n k => [.look n k]
  | .unary _ op x _ => x.steps ++ [.unary op]
  | .binary _ op l r _ => l.steps ++ r.steps ++ [.binary op]
  | .tuple f xs => stepsAll xs ++ [.gather f xs.length]
  | x => [.keep x]

def stepsAll : List Item → List Step
  | [] => []
  | x :: xs => x.steps ++ stepsAll xs

end

end Item

section

variable [Host]

namespace Step

-- One step, on the values that earlier steps have left. The last one left is the first of the list.
def run (look : Lookup) : List Item → Step → Except Failure (List Item)
  | vs, .keep x => .ok (x :: vs)
  | vs, .look n k => (look n k).map (· :: vs)
  | v :: vs, .unary op => (applyUnary op v).map (· :: vs)
  | w :: v :: vs, .binary op => (applyBinary op v w).map (· :: vs)
  | vs, .gather f n => .ok (.tuple f.rebuilt (vs.take n).reverse :: vs.drop n)
  -- the steps of an item always leave its operators enough values
  | vs, _ => .ok vs

end Step

namespace Step

variable {d : DynamicEnvironment}

end Step

end

end Deferred
