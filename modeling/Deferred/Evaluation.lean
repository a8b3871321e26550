import Deferred.Arithmetic.Apply
import Deferred.Environment

-- Evaluation, from left to right. The first failure ends it.

set_option autoImplicit false

namespace Deferred

abbrev Lookup := String → Kind → Except Failure Item

variable [Host]

mutual

-- tuples are entered and rebuilt; only records keep their form
def evaluateWith (look : Lookup) : Item → Except Failure Item
  | .placeholder _ n k => look n k
  | .unary _ op x _ => do
    let v ← evaluateWith look x
    applyUnary op v
  | .binary _ op l r _ => do
    let v ← evaluateWith look l
    let w ← evaluateWith look r
    applyBinary op v w
  | .tuple f xs => do
    let vs ← evaluateAll look xs
    .ok (.tuple f.rebuilt vs)
  | x => .ok x

def evaluateAll (look : Lookup) : List Item → Except Failure (List Item)
  | [] => .ok []
  | x :: xs => do
    let v ← evaluateWith look x
    let vs ← evaluateAll look xs
    .ok (v :: vs)

end

def evaluate (x : Item) (e : Environment) : Except Failure Item := do
  e.accept x
  evaluateWith e.lookup x

/-- An expression that passed its check, with the value of every variable in it. -/
structure Prepared where
  item : Item
  cells : List (String × Item)
deriving Repr

namespace Prepared

def lookup (p : Prepared) : Lookup := fun n _ =>
  match p.cells.lookup n with
  | some x => .ok x
  | none => .error .missingKey

def evaluate (p : Prepared) : Except Failure Item := evaluateWith p.lookup p.item

def text (p : Prepared) : String := p.item.format

def repr (p : Prepared) : String := "<Prepared " ++ p.text ++ ">"

end Prepared

def StaticEnvironment.resolve (e : StaticEnvironment) (x : Item) : Except Failure Prepared := do
  let cells ← (freeVariables x).mapM fun v => do
    let value ← (Environment.static e).get v.1
    .ok (v.1, value)
  .ok ⟨x, cells⟩

def StaticEnvironment.prepare (e : StaticEnvironment) (x : Item) (r : Report) : Verdict Prepared :=
  let v := vet x (Environment.static e).signature r
  ⟨v.result.bind fun _ => e.resolve x, v.report, v.lines⟩

def Environment.prepare (e : Environment) (x : Item) (r : Report) : Verdict Prepared :=
  match e with
  | .static s => s.prepare x r
  | .dynamic _ => ⟨.error (.unprepared e.flavor), r, []⟩

def Environment.acceptOn (e : Environment) (x : Item) (r : Report) : Verdict Unit :=
  match e with
  | .static _ => vet x e.signature r
  | .dynamic _ => ⟨.error .unsupported, r, []⟩

end Deferred
