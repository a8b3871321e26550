import Deferred.CommandLine.Assignment
import Deferred.CommandLine.Options
import Deferred.Evaluation
import Deferred.Host.Standard

-- The demonstration: a handful of expressions, each printed beside its value.

set_option autoImplicit false

namespace Deferred.CommandLine

variable [Host]

def ceilDiv (n d : Item) : Except Trouble Item := do
  let a ← Item.operateBinary .add n d
  let b ← Item.operateBinary .sub a (.int 1)
  Item.operateBinary .div b d

def showcase : Except Trouble (List Item) := do
  let foo := Item.placeholder 1 "foo" .int
  let bar := Item.placeholder 2 "bar" .int
  let blockSize := Item.placeholder 3 "block_size" .int
  let blocks ← ceilDiv (.int 12345) blockSize
  .ok [foo,
    ← Item.operateUnary .plus foo,
    ← Item.operateUnary .negate foo,
    ← Item.operateUnary .complement foo,
    ← Item.operateBinary .add (.int 7) foo,
    ← Item.operateBinary .sub foo bar,
    ← Item.operateBinary .mul foo (.int 7),
    ← Item.operateBinary .div foo bar,
    ← Item.operateBinary .mod foo (.int 7),
    blocks,
    .tuple .plain [blockSize, blocks]]

def defaults : List (String × Item) := [("foo", .int 13), ("bar", .int 7), ("block_size", .int 128)]

inductive Escape where
  | assignment (e : AssignmentError)
  | failure (f : Failure)
deriving Repr

def Escape.message? : Escape → Option String
  | assignment e => e.message?
  | failure f => f.message?

def rebind (e : Environment) (name : String) (value : Item) : Except Failure Environment :=
  match value with
  | .none => e.erase name
  | x => e.set (.str name) x

def initial (static : Bool) : Except Failure Environment :=
  let pairs := defaults.map fun p => (Item.str p.1, p.2)
  if static then (StaticEnvironment.ofList pairs).map .static
  else ((DynamicEnvironment.ofList pairs).map .dynamic).mapError .rejected

def environment (s : Settings) : Except Escape Environment := do
  let e ← (initial s.static).mapError Escape.failure
  let pairs ← (s.binds.mapM readAssignment).mapError Escape.assignment
  let pairs := pairs ++ (s.blockSize.map fun n => ("block_size", Item.int n)).toList
  (pairs.foldlM (fun e p => rebind e p.1 p.2) e).mapError Escape.failure

structure Console where
  out : List String := []
  err : List String := []
  dice : Dice
deriving Repr

structure Progress where
  console : Console
  report : Report
  failures : Nat
deriving Repr

def showOne (s : Settings) (e : Environment) (p : Progress) (x : Item) :
    Except (Escape × Console) Progress :=
  let (result, report, lines) : Except Failure (Option Item) × Report × List String :=
    if s.check then
      let v := vet x e.signature p.report
      (v.result.map fun _ => none, v.report, v.lines)
    else
      match e with
      | .static e =>
        let v := e.prepare x p.report
        (do some <$> (← v.result).evaluate, v.report, v.lines)
      | .dynamic _ => (some <$> evaluate x e, p.report, [])
  let console := { p.console with err := p.console.err ++ lines }
  match result with
  | .ok (some v) =>
    let line := x.format ++ " => " ++ v.text
    .ok { p with console := { console with out := console.out ++ [line] }, report := report.reset }
  | .ok none => .ok { p with console, report := report.reset }
  | .error f =>
    match f.message? with
    | some m =>
      let (complaint, dice) := report.complaint console.dice
      let err := console.err ++ [x.format ++ " => error: " ++ m] ++ complaint
      .ok ⟨{ console with err, dice }, report.reset, p.failures + 1⟩
    | none => .error (.failure f, console)

structure Outcome where
  status : Except Escape Nat
  console : Console
deriving Repr

def run (s : Settings) (c : Console) : Outcome :=
  match environment s with
  | .error esc =>
    match esc.message? with
    | some m => ⟨.ok 2, { c with err := c.err ++ [m] }⟩
    | none => ⟨.error esc, c⟩
  | .ok e =>
    let report := Report.make (0 < s.verbose) Report.ampleLimit
    let c := { c with err := c.err ++ report.info ("Environment: " ++ e.repr) }
    match showcase with
    | .error t => ⟨.error (.failure (t.during (.binary .add))), c⟩
    | .ok xs =>
      match xs.foldlM (showOne s e) ⟨c, report, 0⟩ with
      | .error (esc, c) => ⟨.error esc, c⟩
      | .ok p =>
        if p.failures ≠ 0 then ⟨.ok 1, p.console⟩
        else if s.check then
          ⟨.ok 0, { p.console with err := p.console.err ++ ["Looks plausible to me."] }⟩
        else ⟨.ok 0, p.console⟩

def program (args : List String) (dice : Dice) : Outcome :=
  if args.isEmpty then run {} { out := introduction, dice }
  else
    match readArguments args with
    | .settings s => run s { dice }
    | .help => ⟨.ok 0, { out := help, dice }⟩
    | .error e =>
      ⟨.ok 2, { err := usage ++ ["unevaluated: error: " ++ e.message], dice }⟩

def textOf (lines : List String) : String := String.join (lines.map (· ++ "\n"))

end Deferred.CommandLine
