import Deferred.Item.Text

-- The formula of an item together with where each node landed in it. Offsets count characters.

set_option autoImplicit false

namespace Deferred

structure Span where
  start : Nat
  stop : Nat
deriving DecidableEq, Repr, Inhabited

def Span.width (s : Span) : Nat := s.stop - s.start

structure Mark where
  node : Item
  span : Span
deriving Repr, Inhabited

namespace Item

def inset (x : Item) (start : Nat) : Nat := if x.isComposite then start + 1 else start

def markAt (x : Item) (start : Nat) : Mark := ⟨x, start, start + x.formula.length⟩

mutual

def marks (start : Nat) : Item → List Mark
  -- the occurrences of nodes in the formula, each node before its operands, from left to right
  | .placeholder s n k => [markAt (.placeholder s n k) start]
  | .unary s op x k => markAt (.unary s op x k) start :: marks (x.inset (start + 1)) x
  | .binary s op l r k =>
    let right := start + (parenthesized l.isComposite l.formula).length + 1
    markAt (.binary s op l r k) start :: marks (l.inset start) l ++ marks (r.inset right) r
  | .tuple _ xs => marksAll (start + 1) xs
  | _ => []

def marksAll (start : Nat) : List Item → List Mark
  | [] => []
  | x :: xs => marks start x ++ marksAll (start + x.formula.length + 2) xs

end

def serial? : Item → Option Nat
  | .placeholder s _ _ | .unary s _ _ _ | .binary s _ _ _ _ => some s
  | _ => Option.none

end Item

structure Occurrence where
  name : String
  kind : Kind
  span : Span
deriving DecidableEq, Repr

structure Layout where
  text : String
  marks : List Mark
deriving Repr

namespace Layout

def ofItem (x : Item) : Layout := ⟨x.format, x.marks 0⟩

def spansOf (l : Layout) (x : Item) : List Span :=
  -- where the node itself occurs; another node that looks the same does not count
  match x.serial? with
  | some s => (l.marks.filter fun m => m.node.serial? == some s).map Mark.span
  | none => []

-- The whole text stands in for a node that does not occur.
def firstSpan (l : Layout) (x : Item) : Span := (l.spansOf x).headD ⟨0, l.text.length⟩

def excerpt (l : Layout) (s : Span) : String :=
  String.ofList ((l.text.toList.take s.stop).drop s.start)

def nodes (l : Layout) : List Item :=
  l.marks.foldl (fun found m =>
    if found.any fun x => x.serial? == m.node.serial? then found else found ++ [m.node]) []

def occurrences (l : Layout) : List Occurrence :=
  l.marks.filterMap fun m => match m.node with
    | .placeholder _ n k => some ⟨n, k, m.span⟩
    | _ => none

end Layout

structure Variable where
  serial : Nat
  name : String
  kind : Kind
deriving DecidableEq, Repr

def Variable.node (v : Variable) : Item := .placeholder v.serial v.name v.kind

mutual

def Item.variables : Item → List Variable
  | .placeholder s n k => [⟨s, n, k⟩]
  | .unary _ _ x _ => x.variables
  | .binary _ _ l r _ => l.variables ++ r.variables
  | .tuple _ xs => variablesAll xs
  | _ => []

def Item.variablesAll : List Item → List Variable
  | [] => []
  | x :: xs => x.variables ++ variablesAll xs

end

def Layout.span (l : Layout) (v : Variable) (nth : Nat) : Span :=
  ((l.spansOf v.node)[nth]?).getD (l.firstSpan v.node)

-- Where the variables met on a tour stand. All that tells one occurrence of a node from another is how often
-- the node was `met` before.
def Layout.placed (l : Layout) (met : List Nat) : List Variable → List Occurrence
  | [] => []
  | v :: vs => ⟨v.name, v.kind, l.span v (met.count v.serial)⟩ :: placed l (v.serial :: met) vs

def freeVariables (x : Item) : List (String × Kind) :=
  (Layout.ofItem x).occurrences.foldl (fun found o =>
    if found.any fun v => v.1 == o.name then found else found ++ [(o.name, o.kind)]) []

end Deferred
