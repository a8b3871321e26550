import Deferred.Algebra
import Deferred.Report

-- Checking an expression against a signature before any of it is evaluated. All problems are reported, up to the
-- report's limit.

set_option autoImplicit false

namespace Deferred

abbrev Signature := List (String × Option Kind)

def putInPlace {α : Type} (cells : List (String × α)) (name : String) (value : α) : List (String × α) :=
  if cells.any fun c => c.1 == name then
    cells.map fun c => if c.1 == name then (name, value) else c
  else cells ++ [(name, value)]

def Signature.ofList (pairs : List (String × Option Kind)) : Signature :=
  -- a name given twice keeps its first place and its last kind
  pairs.foldl (fun s p => putInPlace s p.1 p.2) []

inductive Halt where
  | reportFull
  -- a bound kind was missing where one had to be compared
  | unsupported
deriving DecidableEq, Repr

namespace Check

structure Progress where
  report : Report
  -- the serial of the layout that the check looks at
  layout : Nat
  -- each name's first declaration and where it stands
  declared : List (String × Kind × Span)
deriving Repr

def Progress.start (r : Report) : Progress := ⟨r, r.newLayout, []⟩

def Progress.unbound? (p : Progress) (name : String) : Option Nat :=
  p.report.unbound.lookup (p.layout, name)

abbrev Step := Except (Report × Halt) Progress

def Progress.issue (p : Progress) (i : Issue) : Step :=
  let r := p.report.add i
  if r.isFull then .error (r, .reportFull) else .ok { p with report := r }

def pointAt (s : Span) (i : Issue) : Issue :=
  match i.cause with
  | .unbound n spans => { i with cause := .unbound n (spans ++ [s]) }
  | _ => i

def declaration (text : String) (o : Occurrence) (p : Progress) : Step :=
  match p.declared.lookup o.name with
  | some (k, s) => if k = o.kind then .ok p else p.issue ⟨text, .conflict o.name k o.kind s o.span⟩
  | none => .ok { p with declared := p.declared ++ [(o.name, o.kind, o.span)] }

def Progress.keep (p : Progress) (name : String) : Progress :=
  let entry := ((p.layout, name), p.report.issues.length)
  { p with report := { p.report with unbound := p.report.unbound ++ [entry] } }

def enter (text : String) (o : Occurrence) (p : Progress) : Step :=
  match p.unbound? o.name with
  | some _ => .ok p
  | none => (p.keep o.name).issue ⟨text, .unbound o.name []⟩

def point (o : Occurrence) (p : Progress) : Progress :=
  match p.unbound? o.name with
  | some index =>
    { p with report := { p.report with issues := p.report.issues.modify index (pointAt o.span) } }
  | none => p

def unbound (text : String) (o : Occurrence) (p : Progress) : Step := (enter text o p).map (point o)

variable [Host]

def comparison (signature : Signature) (text : String) (o : Occurrence) (p : Progress) : Step :=
  match signature.lookup o.name with
  | none => unbound text o p
  | some none => if o.kind = .any then .ok p else .error (p.report, .unsupported)
  | some (some k) =>
    if Algebra.admits o.kind k then .ok p else p.issue ⟨text, .wrongKind o.name o.kind k o.span⟩

def occurrence (signature : Signature) (text : String) (p : Progress) (o : Occurrence) : Step := do
  let p ← declaration text o p
  comparison signature text o p

def visits (x : Item) : List Occurrence := (Layout.ofItem x).placed [] x.variables

end Check

structure Checked where
  report : Report
  lines : List String
  halt : Option Halt
deriving Repr

variable [Host]

def check (x : Item) (signature : Signature) (r : Report) : Checked :=
  let l := Layout.ofItem x
  let lines := r.info ("Checking " ++ l.text)
  match (Check.visits x).foldlM (Check.occurrence signature l.text) (.start r) with
  | .ok p => ⟨p.report, lines, none⟩
  | .error (r, h) => ⟨r, lines, some h⟩

structure Verdict (α : Type) where
  result : Except Failure α
  report : Report
  lines : List String
deriving Repr

def requirePlausible (x : Item) (signature : Signature) (r : Report) : Verdict Unit :=
  -- Only issues that this check adds count against the expression, so one report may serve many checks.
  let before := r.issues.length
  let c := check x signature r
  match c.halt with
  | some .unsupported => ⟨.error .unsupported, c.report, c.lines⟩
  | h =>
    let lines := match h with
      | some _ => c.lines ++ c.report.info "Giving up after a few issues."
      | none => c.lines
    if before < c.report.issues.length then
      ⟨.error (.rejected (.unfitting ((c.report.since before).map Issue.intro) (c.report.texts before))),
        c.report, lines⟩
    else ⟨.ok (), c.report, lines⟩

def vet (x : Item) (signature : Signature) (r : Report) : Verdict Unit :=
  -- the check begins with the text of the expression
  if x.isWritable then requirePlausible x signature r else ⟨.error .invalid, r, []⟩

end Deferred
