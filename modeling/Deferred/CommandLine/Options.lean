import Deferred.Text.Numeral
import Deferred.Text.Quoted

-- The arguments of the demonstration: which of them are options, and the settings they amount to.

set_option autoImplicit false

namespace Deferred.CommandLine

inductive Switch where
  | help
  | bind
  | blockSize
  | static
  | check
  | verbose
deriving DecidableEq, Repr

namespace Switch

def flags : Switch → List String
  | help => ["-h", "--help"]
  | bind => ["-b", "--bind"]
  | blockSize => ["--block-size"]
  | static => ["-s", "--static"]
  | check => ["-c", "--check"]
  | verbose => ["-v", "--verbose"]

def all : List Switch := [help, bind, blockSize, static, check, verbose]

def title (s : Switch) : String := "/".intercalate s.flags

def takesValue : Switch → Bool
  | bind | blockSize => true
  | _ => false

def table : List (String × Switch) := all.flatMap fun s => s.flags.map (·, s)

def ofFlag? (flag : String) : Option Switch := table.lookup flag

end Switch

inductive UsageError where
  | ambiguous (given : String) (candidates : List String)
  | valueMissing (s : Switch)
  | valueIgnored (s : Switch) (given : String)
  | notWhole (given : String)
  | unrecognized (given : List String)
deriving DecidableEq, Repr

def UsageError.message : UsageError → String
  | ambiguous given cs => "ambiguous option: " ++ given ++ " could match " ++ ", ".intercalate cs
  | valueMissing s => "argument " ++ s.title ++ ": expected one argument"
  | valueIgnored s given =>
    "argument " ++ s.title ++ ": ignored explicit argument " ++ Text.quoted given
  | notWhole given =>
    "argument " ++ Switch.blockSize.title ++ ": invalid int value: " ++ Text.quoted given
  | unrecognized given => "unrecognized arguments: " ++ " ".intercalate given

structure Settings where
  binds : List String := []
  blockSize : Option Int := none
  static : Bool := false
  check : Bool := false
  verbose : Nat := 0
deriving DecidableEq, Repr, Inhabited

inductive Word where
  | plain (s : String)
  -- two dashes: no options follow
  | dashes
  | option (s : Switch) (flag : String) (value : Option String)
  | unknown (s : String)
deriving Repr

def isNumberBody (cs : List Char) : Bool :=
  let isDigit (c : Char) := (Text.digitValue? c).isSome
  let rest := cs.dropWhile isDigit
  match rest with
  | [] => !cs.isEmpty
  | '.' :: ds => !ds.isEmpty && ds.all isDigit
  | _ => false

def isNegativeNumber (cs : List Char) : Bool :=
  match cs with
  | '-' :: r => isNumberBody (if r.getLast? = some '\n' then r.dropLast else r)
  | _ => false

def splitAtEquals (cs : List Char) : Option (String × String) :=
  let name := cs.takeWhile (· ≠ '=')
  match cs.drop name.length with
  | _ :: r => some (String.ofList name, String.ofList r)
  | [] => none

def candidates (arg : String) : List (Switch × String × Option String) :=
  match arg.toList with
  | '-' :: '-' :: _ =>
    let (start, value) := match splitAtEquals arg.toList with
      | some (n, v) => (n, some v)
      | none => (arg, none)
    Switch.table.filterMap fun (flag, s) => if flag.startsWith start then some (s, flag, value) else none
  | '-' :: c :: r =>
    Switch.table.filterMap fun (flag, s) =>
      if flag = String.ofList ['-', c] then some (s, flag, some (String.ofList r)) else none
  | _ => []

def classify (arg : String) : Except UsageError Word :=
  match arg.toList with
  | '-' :: _ :: _ =>
    match Switch.ofFlag? arg with
    | some s => .ok (.option s arg none)
    | none =>
      let attached := (splitAtEquals arg.toList).bind fun (n, v) =>
        (Switch.ofFlag? n).map fun s => Word.option s n (some v)
      match attached, candidates arg with
      | some w, _ => .ok w
      | none, [(s, flag, value)] => .ok (.option s flag value)
      | none, [] =>
        if isNegativeNumber arg.toList || arg.toList.contains ' ' then .ok (.plain arg)
        else .ok (.unknown arg)
      | none, cs => .error (.ambiguous arg (cs.map fun c => c.2.1))
  | _ => .ok (.plain arg)

def classifyAll : List String → Except UsageError (List Word)
  | [] => .ok []
  | "--" :: args => .ok (.dashes :: args.map .plain)
  | arg :: args => do
    let w ← classify arg
    let ws ← classifyAll args
    .ok (w :: ws)

def wholeNumber? (s : String) : Option Int :=
  -- a whole number, with blanks around it and single underscores within it
  let (negative, cs) := Text.sign ((Text.trim s.toList).map Text.westernDigit)
  match Text.digitRun cs with
  | (ds, []) =>
    if ds.isEmpty then none
    else
      let n : Int := Text.digitsValue ds
      some (if negative then -n else n)
  | _ => none

inductive Reading where
  | settings (s : Settings)
  | help
  | error (e : UsageError)
deriving Repr

structure Action where
  switch : Switch
  value : String
deriving Repr

def act (s : Settings) (a : Action) : Except Reading Settings :=
  match a.switch with
  | .help => .error .help
  | .bind => .ok { s with binds := s.binds ++ [a.value] }
  | .blockSize =>
    match wholeNumber? a.value with
    | some n => .ok { s with blockSize := some n }
    | none => .error (.error (.notWhole a.value))
  | .static => .ok { s with static := true }
  | .check => .ok { s with check := true }
  | .verbose => .ok { s with verbose := s.verbose + 1 }

-- Takes apart options run together behind one dash. The last may take what is left as its value; if nothing is
-- left and it needs a value, that is the next argument.
def runTogether (s : Switch) : List Char → Except UsageError (List Action × Option Switch)
  | [] => .ok (if s.takesValue then ([], some s) else ([⟨s, ""⟩], none))
  | c :: cs =>
    if s.takesValue then .ok ([⟨s, String.ofList (c :: cs)⟩], none)
    else
      match Switch.ofFlag? (String.ofList ['-', c]) with
      | some t => do
        let (rest, waiting) ← runTogether t cs
        .ok (Action.mk s "" :: rest, waiting)
      | none => .error (.valueIgnored s (String.ofList (c :: cs)))

def actions (s : Switch) (flag : String) : Option String → Except UsageError (List Action × Option Switch)
  | none => runTogether s []
  | some v =>
    if s.takesValue then .ok ([⟨s, v⟩], none)
    else if flag.startsWith "--" || v.isEmpty then .error (.valueIgnored s v)
    else runTogether s v.toList

def follow (s : Settings) (left : List String) : List Word → Except Reading Settings
  | [] => if left.isEmpty then .ok s else .error (.error (.unrecognized left))
  | .plain a :: ws => follow s (left ++ [a]) ws
  | .unknown a :: ws => follow s (left ++ [a]) ws
  | .dashes :: ws => follow s (left ++ ["--"]) ws
  | .option sw flag v :: ws => do
    let (as, waiting) ← (actions sw flag v).mapError Reading.error
    match waiting, ws with
    | none, ws => do
      let s ← as.foldlM act s
      follow s left ws
    | some w, .plain a :: ws => do
      let s ← (as ++ [Action.mk w a]).foldlM act s
      follow s left ws
    | some w, _ => .error (.error (.valueMissing w))

def readArguments (args : List String) : Reading :=
  match classifyAll args with
  | .error e => .error e
  | .ok ws =>
    match follow {} [] ws with
    | .ok s => .settings s
    | .error r => r

def usage : List String := [
  "usage: unevaluated [-h] [-b NAME=VALUE] [--block-size BLOCK_SIZE] [-s] [-c]",
  "                   [-v]"]

def help : List String := usage ++ [
  "",
  "Build some expressions, then format and evaluate them.",
  "",
  "options:",
  "  -h, --help            show this help message and exit",
  "  -b NAME=VALUE, --bind NAME=VALUE",
  "                        Bind (or re-bind) a name. The value is a Python",
  "                        literal; None erases the name.",
  "  --block-size BLOCK_SIZE",
  "                        Shorthand for --bind block_size=N.",
  "  -s, --static          Use a static environment, which checks each expression",
  "                        before evaluating it.",
  "  -c, --check           Check the expressions against the environment but do",
  "                        not actually evaluate them.",
  "  -v, --verbose         Say more about what is going on."]

def introduction : List String := [
  "This is a demonstration driver for deferred arithmetic expressions.",
  ""] ++ usage ++ [
  "",
  "",
  "It builds a handful of expressions over the variables foo, bar, and block_size,",
  "then prints each one beside its value in an environment of your choosing:",
  "",
  "    unevaluated -b foo=13 -b bar=7 --block-size 128",
  "",
  "will evaluate everything with those bindings, while",
  "",
  "    unevaluated --static -b bar=None",
  "",
  "shows how a static environment refuses expressions before evaluating them.",
  "",
  "    unevaluated -h",
  "",
  "will explain all the arguments."]

end Deferred.CommandLine
