import Deferred.Host
import Deferred.Layout

-- The issues found while checking expressions, and how each is illustrated.

set_option autoImplicit false

namespace Deferred

inductive Cause where
  -- nothing is bound to the name; all its occurrences, as far as the check got
  | unbound (name : String) (spans : List Span)
  | wrongKind (name : String) (declared bound : Kind) (span : Span)
  | conflict (name : String) (first second : Kind) (firstSpan span : Span)
deriving DecidableEq, Repr

structure Issue where
  text : String
  cause : Cause
deriving DecidableEq, Repr

namespace Issue

def intro (i : Issue) : String :=
  match i.cause with
  | .unbound n _ => "Nothing in the environment is called '" ++ n ++ "'."
  | .wrongKind n declared bound _ =>
    "'" ++ n ++ "' is declared " ++ declared.name ++ ", but the environment binds a(n) " ++ bound.name ++ "."
  | .conflict n _ _ _ _ =>
    "'" ++ n ++ "' is declared with two different types in the same expression."

def annotations (i : Issue) : List (Span × String) :=
  match i.cause with
  | .unbound _ spans => spans.map (·, "")
  | .wrongKind _ declared _ s => [(s, "needs a(n) " ++ declared.name)]
  | .conflict _ first second s t => [(s, first.name), (t, second.name)]

def footer (i : Issue) : List String :=
  match i.cause with
  | .conflict .. => ["That's probably an oversight."]
  | _ => []

def margin : String := "    |"

def illustration [Host] (text : String) (s : Span) (caption : String) : String :=
  Host.illustration text s.start s.width margin caption

def fullText [Host] (i : Issue) : String :=
  "\n".intercalate <|
    [i.intro, ""] ++ i.annotations.map (fun (s, c) => illustration i.text s c) ++ i.footer

end Issue

/-- A check gives up at as many issues as the `limit` says. -/
structure Report where
  verbose : Bool
  limit : Int
  issues : List Issue
  -- where the issue of an unbound name stands, kept under the serial of the layout it was met in and
  -- the name
  unbound : List ((Nat × String) × Nat)
deriving DecidableEq, Repr

namespace Report

def make (verbose : Bool) (limit : Int) : Report := ⟨verbose, limit, [], []⟩

def defaultLimit : Int := 3

def ampleLimit : Int := 25

def isFull (r : Report) : Bool := r.limit ≤ r.issues.length

def add (r : Report) (i : Issue) : Report := { r with issues := r.issues ++ [i] }

def reset (r : Report) : Report := { r with issues := [], unbound := [] }

-- The serial of a new layout. The report keeps the layouts that its unbound names were met in, so that a new
-- one is none of them.
def newLayout (r : Report) : Nat := r.unbound.foldl (fun n entry => max n (entry.1.1 + 1)) 0

theorem lt_newLayout {r : Report} {entry : (Nat × String) × Nat} (kept : entry ∈ r.unbound) :
    entry.1.1 < r.newLayout := by
  have above (entries : List ((Nat × String) × Nat)) (n : Nat) :
      let top := entries.foldl (fun n entry => max n (entry.1.1 + 1)) n
      n ≤ top ∧ ∀ entry ∈ entries, entry.1.1 < top := by
    induction entries generalizing n with
    | nil => simp
    | cons first rest ih =>
      obtain ⟨start, others⟩ := ih (max n (first.1.1 + 1))
      refine ⟨by simp only [List.foldl_cons]; omega, List.forall_mem_cons.2 ⟨?_, others⟩⟩
      simp only [List.foldl_cons]
      omega
  exact (above r.unbound 0).2 entry kept

theorem lookup_newLayout (r : Report) (name : String) :
    r.unbound.lookup (r.newLayout, name) = none := by
  rw [List.lookup_eq_none_iff]
  intro entry kept
  have older := lt_newLayout kept
  have apart : r.newLayout ≠ entry.1.1 := by omega
  simpa using fun same : (r.newLayout, name) = entry.1 => apart (congrArg Prod.fst same)

def info (r : Report) (line : String) : List String := if r.verbose then [line] else []

def since (r : Report) (n : Int) : List Issue :=
  r.issues.drop (if n < 0 then n + r.issues.length else n).toNat

def summary (r : Report) (n : Int) : String := " ".intercalate ((r.since n).map Issue.intro)

def texts [Host] (r : Report) (n : Int) : List String := (r.since n).map Issue.fullText

end Report

structure Dice where
  throws : List Int
  thrown : Nat
deriving Repr

namespace Dice

def pick {α : Type} (d : Dice) (x : α) (xs : List α) : α × Dice :=
  let face := (d.throws[d.thrown % d.throws.length]?).getD 0
  ((x :: xs).getD (face % (xs.length + 1)).toNat x, { d with thrown := d.thrown + 1 })

end Dice

def outburst (d : Dice) : String × Dice :=
  let (particle, d) := d.pick "Oh, " ["Well, ", "Aw, ", "", ""]
  let (oath, d) := d.pick "Ack" ["Blargh", "Confound it", "Crud", "Curses", "Crikey", "Drat",
    "Fiddlesticks", "Good Grief", "Great Scott", "Jeepers", "Heavens", "Nuts", "Rats"]
  let (resignation, d) := d.pick "I cannot evaluate that." ["Nothing was evaluated.",
    "The arithmetic will have to wait.", "I need to ask for help."]
  (particle ++ oath ++ "! " ++ resignation, d)

namespace Report

def complaint [Host] (r : Report) (d : Dice) : List String × Dice :=
  if r.issues.isEmpty then ([], d)
  else
    let (cry, d) := outburst d
    let rule := String.join (List.replicate 20 "  -")
    (String.ofList (List.replicate 60 '*') :: cry :: r.issues.flatMap fun i => [rule, i.fullText], d)

def lastWord? [Host] (r : Report) (message : String) (d : Dice) : Option String × List String × Dice :=
  if r.issues.isEmpty then (none, [], d)
  else
    let (lines, d) := r.complaint d
    let (cry, d) := outburst d
    (some (cry ++ " " ++ message), lines, d)

end Report

end Deferred
