import Deferred.Failure
import Deferred.Host
import Deferred.Number.Binary64.Places

-- Directives of a text template, and how a converted value is laid out in its field.

set_option autoImplicit false

namespace Deferred.Template

structure Flags where
  left : Bool := false
  plus : Bool := false
  blank : Bool := false
  alternate : Bool := false
  zero : Bool := false
deriving Repr

structure Directive where
  flags : Flags
  width : Option Nat
  precision : Option Nat
  letter : Char
deriving Repr

structure Supply where
  -- the arguments still to be used, and the one that names are looked up in
  rest : List Item
  mapping : Option Item
deriving Repr

def Supply.next (s : Supply) : Except Trouble (Item × Supply) :=
  match s.rest with
  | x :: xs => .ok (x, { s with rest := xs })
  | [] => .error .unsupported

def flags (f : Flags) : List Char → Flags × List Char
  | '-' :: cs => flags { f with left := true } cs
  | '+' :: cs => flags { f with plus := true } cs
  | ' ' :: cs => flags { f with blank := true } cs
  | '#' :: cs => flags { f with alternate := true } cs
  | '0' :: cs => flags { f with zero := true } cs
  | cs => (f, cs)

def name : Nat → List Char → Option (List Char × List Char)
  | _, [] => none
  | depth, c :: cs =>
    if c = ')' && depth = 0 then some ([], cs)
    else
      let depth := if c = '(' then depth + 1 else if c = ')' then depth - 1 else depth
      (name depth cs).map fun (key, rest) => (c :: key, rest)

def lookUp (key : String) : Item → Except Trouble Item
  | .dict ks vs =>
    match (ks.zip vs).find? fun (k, _) => match k with
      | .str s => s == key
      | _ => false with
    | some (_, v) => .ok v
    | none => .error .missingKey
  | _ => .error .unsupported

def named (cs : List Char) (s : Supply) : Except Trouble (List Char × Supply) :=
  match cs with
  | '(' :: cs =>
    match s.mapping with
    | none => .error .unsupported
    | some m =>
      match name 0 cs with
      | none => .error .invalid
      | some (key, cs) => do
        let x ← lookUp (String.ofList key) m
        .ok (cs, { s with rest := [x] })
  | cs => .ok (cs, s)

def greatestCount : Int := 0x7fffffffffffffff
def greatestPlain : Int := 0x7fffffff

def width (f : Flags) (cs : List Char) (s : Supply) :
    Except Trouble (Flags × Option Nat × List Char × Supply) :=
  -- a width, written out or taken from the arguments; a negative one asks for the left side
  match cs with
  | '*' :: cs => do
    let (x, s) ← s.next
    match x.int? with
    | none => .error .unsupported
    | some n =>
      if n < -greatestCount - 1 ∨ greatestCount < n then .error (.fault .widthTooLarge)
      else .ok (if n < 0 then { f with left := true } else f, some n.natAbs, cs, s)
  | cs =>
    let ds := cs.takeWhile Char.isDigit
    if ds.isEmpty then .ok (f, none, cs, s)
    else
      let n := Text.digitsValue ds
      if greatestCount < n then .error .invalid else .ok (f, some n, cs.drop ds.length, s)

def precision (cs : List Char) (s : Supply) : Except Trouble (Option Nat × List Char × Supply) :=
  match cs with
  | '.' :: '*' :: cs => do
    let (x, s) ← s.next
    match x.int? with
    | none => .error .unsupported
    | some n =>
      if n < -greatestPlain - 1 ∨ greatestPlain < n then .error (.fault .precisionTooLarge)
      else .ok (some n.toNat, cs, s)
  | '.' :: cs =>
    let ds := cs.takeWhile Char.isDigit
    let n := Text.digitsValue ds
    if greatestPlain < n then .error .invalid else .ok (some n, cs.drop ds.length, s)
  | cs => .ok (none, cs, s)

def skipLength : List Char → List Char
  | 'h' :: cs | 'l' :: cs | 'L' :: cs => cs
  | cs => cs

def directive (cs : List Char) (s : Supply) : Except Trouble (Directive × List Char × Supply) := do
  let (cs, s) ← named cs s
  let (f, cs) := flags {} cs
  let (f, w, cs, s) ← width f cs s
  let (p, cs, s) ← precision cs s
  match skipLength cs with
  | [] => .error .invalid
  | c :: cs => .ok (⟨f, w, p, c⟩, cs, s)

def Directive.lay [Host] (d : Directive) (signed : Bool) (body : List Char) : Except Trouble (List Char) :=
  let (sign, body) : List Char × List Char :=
    if signed then
      match body with
      | '-' :: r => (['-'], r)
      | '+' :: r => (['+'], r)
      | r => (if d.flags.plus then ['+'] else if d.flags.blank then [' '] else [], r)
    else ([], body)
  let (mark, body) := if signed && d.flags.alternate && (d.letter = 'x' || d.letter = 'X' || d.letter = 'o')
    then (body.take 2, body.drop 2) else ([], body)
  let pad := d.width.getD 0 - (sign.length + mark.length + body.length)
  if Host.room < pad then .error .exhausted
  else if d.flags.left then .ok (sign ++ mark ++ body ++ List.replicate pad ' ')
  else if signed && d.flags.zero then .ok (sign ++ mark ++ List.replicate pad '0' ++ body)
  else .ok (List.replicate pad ' ' ++ sign ++ mark ++ body)

def whole : Item → Except Trouble Int
  | .float x =>
    match x with
    | .nan _ => .error .invalid
    | .infinite _ => .error (.fault .infinityToInteger)
    | .finite s m e => let q := Binary64.scaled s m e; .ok (q.num.tdiv q.den)
  | .fraction q => .ok (q.num.tdiv q.den)
  | .decimal d =>
    match d with
    | .nan .. => .error .invalid
    | .infinite _ => .error (.fault .decimalInfinityToInteger)
    | .finite _ c e =>
      if Item.greatestDigits ≤ Decimal.adjusted c e then .error .invalid
      else if c = 0 || Decimal.adjusted c e < 0 then .ok 0
      else match d.toRat? with
        | some q => .ok (q.num.tdiv q.den)
        | none => .error .invalid
  | x =>
    match x.int? with
    | some n => .ok n
    | none => .error .unsupported

def inTens (x : Item) : Except Trouble Int := do
  let n ← whole x
  if Item.hasText n then .ok n else .error .invalid

def float : Item → Except Trouble Binary64
  | .float x => .ok x
  | .fraction q =>
    match Binary64.ofRat? q with
    | some x => .ok x
    | none => .error (.fault .quotientTooLarge)
  | .decimal d =>
    match d with
    | .nan _ signaling _ _ => if signaling then .error .invalid else .ok (.nan 0)
    | .infinite s => .ok (.infinite s)
    | .finite s c e => .ok (Binary64.ofNumeral s ⟨c, e, true⟩)
  | x =>
    match x.int? with
    | some n =>
      match Binary64.ofInt? n with
      | some x => .ok x
      | none => .error (.fault .integerTooLarge)
    | none => .error .unsupported

def Directive.integerBody (d : Directive) (n : Int) : List Char :=
  let base := match d.letter with
    | 'o' => 8
    | 'x' | 'X' => 16
    | _ => 10
  let ds := Text.padded base (d.precision.getD 0) n.natAbs
  let mark := if d.flags.alternate then
      match d.letter with
      | 'o' => ['0', 'o']
      | 'x' | 'X' => ['0', 'x']
      | _ => []
    else []
  let cs := (if n < 0 then ['-'] else []) ++ mark ++ ds
  if d.letter = 'X' then cs.map Char.toUpper else cs

def Directive.floatBody (d : Directive) (x : Binary64) : List Char :=
  let places := d.precision.getD 6
  let cs := match x with
    | .nan _ => ['n', 'a', 'n']
    | .infinite _ => ['i', 'n', 'f']
    | .finite _ m e =>
      match d.letter with
      | 'e' | 'E' => Binary64.scientific m e places d.flags.alternate
      | 'f' | 'F' => Binary64.positional (Binary64.scaled false m e) places d.flags.alternate
      | _ => Binary64.general m e places d.flags.alternate
  let cs := if x.isNegative then '-' :: cs else cs
  if d.letter.isUpper then cs.map Char.toUpper else cs

def Directive.integer [Host] (d : Directive) (x : Item) : Except Trouble (List Char) := do
  -- integer conversions: digits in base eight and sixteen are for integers only
  let n ← match d.letter with
    | 'd' | 'i' | 'u' => inTens x
    | _ =>
      match x.int? with
      | some n => .ok n
      | none => .error .unsupported
  d.lay true (d.integerBody n)

def Directive.floating [Host] (d : Directive) (x : Item) : Except Trouble (List Char) := do
  d.lay true (d.floatBody (← float x))

def isIntegerLetter (c : Char) : Bool := "diuoxX".contains c
def isFloatLetter (c : Char) : Bool := "eEfFgG".contains c

end Deferred.Template
