import Deferred.Check
import Deferred.Item.Equality
import Deferred.Node

-- Environments: ordered collections of names and their values, never changed in place.

set_option autoImplicit false

namespace Deferred

structure Binding where
  name : String
  value : Item
  kind : Option Kind
deriving Repr

def requireName (name : Item) : Except Rejection String :=
  match name with
  | .str s => if s.isEmpty then .error (.unnamedBinding name) else .ok s
  | _ => .error (.unnamedBinding name)

def bind [Host] (name value : Item) (declared : Option Declared) : Except Rejection Binding := do
  let n ← requireName name
  match declared with
  | none => .ok ⟨n, value, some value.kind⟩
  | some (.item x) => .error (.bindingKind n x)
  | some (.kind k) =>
    if value.conforms k then .ok ⟨n, value, some k⟩
    else .error (.bindingValue n value.kind k)

def receiverName : String := "cls"

def keywords (pairs : List (Item × Item)) : Except Failure (List (String × Item)) :=
  -- names given as keywords: strings that do not name the receiver; a name given twice keeps its first
  -- place and its last value
  pairs.foldlM (fun cells p =>
    match p.1 with
    | .str n => if n = receiverName then .error .unsupported else .ok (putInPlace cells n p.2)
    | _ => .error .unsupported) []

structure DynamicEnvironment where
  cells : List (String × Item)
deriving Repr, Inhabited

namespace DynamicEnvironment

def empty : DynamicEnvironment := ⟨[]⟩

def ofList (pairs : List (Item × Item)) : Except Rejection DynamicEnvironment := do
  -- a name given twice keeps its first place and its last value
  let cells ← pairs.foldlM (fun cells p => do
    let n ← requireName p.1
    .ok (putInPlace cells n p.2)) []
  .ok ⟨cells⟩

def ofMapping (pairs : List (Item × Item)) : Except Failure DynamicEnvironment :=
  if pairs.any fun p => p.1.hash?.isNone then .error .unsupported
  else (ofList pairs).mapError .rejected

def ofKeywords (pairs : List (Item × Item)) : Except Failure DynamicEnvironment := do
  let cells ← keywords pairs
  (ofList (cells.map fun c => (.str c.1, c.2))).mapError .rejected

def get? (e : DynamicEnvironment) (name : String) : Option Item := e.cells.lookup name

def contains (e : DynamicEnvironment) (name : String) : Bool := e.cells.any fun c => c.1 == name

def bindings (e : DynamicEnvironment) : List Binding :=
  e.cells.map fun c => ⟨c.1, c.2, some c.2.kind⟩

def without (e : DynamicEnvironment) (name : String) : List (String × Item) :=
  e.cells.filter fun c => c.1 != name

def set (e : DynamicEnvironment) (name value : Item) : Except Failure DynamicEnvironment := do
  let n ← (requireName name).mapError .rejected
  .ok ⟨e.without n ++ [(n, value)]⟩

def erase (e : DynamicEnvironment) (name : String) : Except Failure DynamicEnvironment :=
  if e.contains name then .ok ⟨e.without name⟩ else .error (.unbound name)

end DynamicEnvironment

structure RawBinding where
  name : Item
  value : Item
  declared : Option Declared
deriving Repr

structure StaticEnvironment where
  bindings : List Binding
deriving Repr, Inhabited

namespace StaticEnvironment

def empty : StaticEnvironment := ⟨[]⟩

def keep (b : RawBinding) (name : String) : Binding :=
  -- what a validated binding keeps: its own triple, a missing kind included
  ⟨name, b.value, match b.declared with
    | some (.kind k) => some k
    | _ => none⟩

def requireNew (kept : List Binding) (name : Item) : Except Failure Unit :=
  match name with
  | .str n => if kept.any fun c => c.name == n then .error (.rejected (.boundTwice n)) else .ok ()
  | x => if x.hash?.isNone then .error .unsupported else .ok ()

variable [Host]

def takeUp (kept : List Binding) (b : RawBinding) : Except Failure (List Binding) := do
  requireNew kept b.name
  let c ← (bind b.name b.value b.declared).mapError Failure.rejected
  .ok (kept ++ [keep b c.name])

def ofBindings (bs : List RawBinding) : Except Failure StaticEnvironment := do
  let kept ← bs.foldlM takeUp []
  .ok ⟨kept⟩

def raw (b : Binding) : RawBinding := ⟨.str b.name, b.value, b.kind.map .kind⟩

def ofTyped (triples : List (Item × Item × Option Declared)) : Except Failure StaticEnvironment := do
  -- makes every binding before it looks for a name bound twice
  let bs ← (triples.mapM fun t => bind t.1 t.2.1 t.2.2).mapError Failure.rejected
  ofBindings (bs.map raw)

def ofList (pairs : List (Item × Item)) : Except Failure StaticEnvironment :=
  ofTyped (pairs.map fun p => (p.1, p.2, none))

def ofKeywords (pairs : List (Item × Item)) : Except Failure StaticEnvironment := do
  let cells ← keywords pairs
  ofList (cells.map fun c => (.str c.1, c.2))

def find? (e : StaticEnvironment) (name : String) : Option Binding :=
  e.bindings.find? fun b => b.name == name

def contains (e : StaticEnvironment) (name : String) : Bool := e.bindings.any fun b => b.name == name

def get? (e : StaticEnvironment) (name : String) : Option Item := (e.find? name).map Binding.value

def without (e : StaticEnvironment) (name : String) : List Binding :=
  e.bindings.filter fun b => b.name != name

def set (e : StaticEnvironment) (name value : Item) (declared : Option Declared) :
    Except Failure StaticEnvironment := do
  let fresh ← (bind name value declared).mapError Failure.rejected
  ofBindings ((e.without fresh.name ++ [fresh]).map raw)

def erase (e : StaticEnvironment) (name : String) : Except Failure StaticEnvironment :=
  if e.contains name then ofBindings ((e.without name).map raw) else .error (.unbound name)

end StaticEnvironment

inductive Environment where
  | dynamic (e : DynamicEnvironment)
  | static (e : StaticEnvironment)
deriving Repr, Inhabited

namespace Environment

def flavor : Environment → String
  | dynamic _ => "DynamicEnvironment"
  | static _ => "StaticEnvironment"

def bindings : Environment → List Binding
  | dynamic e => e.bindings
  | static e => e.bindings

def names (e : Environment) : List String := e.bindings.map Binding.name

def signature (e : Environment) : Signature := e.bindings.map fun b => (b.name, b.kind)

def get? : Environment → String → Option Item
  | dynamic e => e.get?
  | static e => e.get?

def get (e : Environment) (name : String) : Except Failure Item :=
  match e.get? name with
  | some x => .ok x
  | none => .error (.unbound name)

def contains : Environment → String → Bool
  | dynamic e => e.contains
  | static e => e.contains

def containsItem (e : Environment) (name : Item) : Except Failure Bool :=
  match e, name with
  | e, .str n => .ok (e.contains n)
  | dynamic _, x => if x.hash?.isNone then .error .unsupported else .ok false
  | static _, _ => .ok false

variable [Host]

def erase : Environment → String → Except Failure Environment
  | dynamic e, n => (e.erase n).map dynamic
  | static e, n => (e.erase n).map static

def set (e : Environment) (name value : Item) : Except Failure Environment :=
  match e with
  | dynamic e => (e.set name value).map dynamic
  | static e => (e.set name value none).map static

def setAs (e : Environment) (name value : Item) (declared : Option Declared) : Except Failure Environment :=
  match e with
  | dynamic _ => .error .unsupported
  | static e => (e.set name value declared).map static

def lookup (e : Environment) (name : String) (kind : Kind) : Except Failure Item := do
  let x ← e.get name
  if x.conforms kind then .ok x else .error (.mismatch name kind x.kind)

def repr (e : Environment) : String :=
  e.flavor ++ "(" ++ ", ".intercalate (e.bindings.map fun b => b.name ++ "=" ++ b.value.repr) ++ ")"

def sameBindings : List Binding → List Binding → Except Failure Bool
  | [], [] => .ok true
  | b :: bs, c :: cs =>
    if b.name = c.name then
      Item.both (Item.unlessIdentical b.value c.value (b.value.equals c.value)) <|
        if b.kind = c.kind then sameBindings bs cs else .ok false
    else .ok false
  | _, _ => .ok false

def equals : Environment → Environment → Except Failure Bool
  | dynamic d, dynamic e => sameBindings d.bindings e.bindings
  | static d, static e => sameBindings d.bindings e.bindings
  | _, _ => .ok false

def accept (e : Environment) (x : Item) : Except Failure Unit :=
  match e with
  | dynamic _ => .ok ()
  | static s => (vet x (static s).signature (.make false Report.ampleLimit)).result

end Environment

end Deferred
