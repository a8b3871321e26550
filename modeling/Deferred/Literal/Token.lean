import Deferred.Item.Text
import Deferred.Literal.Quotation
import Deferred.Number.Binary64.Notation

-- The tokens of an expression. A line ends the expression, except inside brackets.

set_option autoImplicit false

namespace Deferred.Literal

inductive Token where
  | number (x : Item)
  | text (cs : List Char)
  | bytes (bs : List UInt8)
  -- text with fields to be filled in
  | formatted
  | word (s : String)
  | mark (s : String)
  | ellipsis
deriving Repr

def basedDigits (isDigit : Char → Bool) : List Char → List Char × List Char
  | '_' :: d :: r =>
    if isDigit d then
      let (ds, rest) := basedDigits isDigit r
      (d :: ds, rest)
    else ([], '_' :: d :: r)
  | c :: r =>
    if isDigit c then
      let (ds, rest) := basedDigits isDigit r
      (c :: ds, rest)
    else ([], c :: r)
  | [] => ([], [])

def based (base : Nat) (isDigit : Char → Bool) (cs : List Char) : Option (Item × List Char) :=
  let (ds, rest) := basedDigits isDigit cs
  if ds.isEmpty then none else some (.int (baseValue base ds), rest)

def isBinary (c : Char) : Bool := c = '0' || c = '1'

def decimalNumber (cs : List Char) : Option (Item × List Char) := do
  -- A whole number, a decimal fraction, or an imaginary part. Only zero may begin with zeros, and whole
  -- numbers can be too long.
  let (n, rest) ← Text.Numeral.scan cs
  match rest with
  | 'j' :: r | 'J' :: r => some (.complex ⟨.zero false, .ofNumeral false n⟩, r)
  | r =>
    if n.fractional then some (.float (.ofNumeral false n), r)
    else if cs.head? = some '0' && n.digits ≠ 0 then none
    else if Item.greatestDigits < ((cs.take (cs.length - r.length)).filter Char.isDigit).length then none
    else some (.int n.digits, r)

def follows (cs : List Char) : Bool :=
  -- what may stand right behind a number: no other part of a word than the start of one of these
  ["and", "else", "for", "if", "in", "is", "or", "not"].any (fun w => w.toList.isPrefixOf cs) ||
    !cs.head?.any Text.continuesName

def number (cs : List Char) : Option (Item × List Char) := do
  let (x, rest) ← match cs with
    | '0' :: 'x' :: r | '0' :: 'X' :: r => based 16 isHex r
    | '0' :: 'o' :: r | '0' :: 'O' :: r => based 8 isOctal r
    | '0' :: 'b' :: r | '0' :: 'B' :: r => based 2 isBinary r
    | cs => decimalNumber cs
  if follows rest then some (x, rest) else none

structure Marking where
  raw : Bool := false
  bytes : Bool := false
  formatted : Bool := false
deriving Repr

def marking? (w : String) : Option Marking :=
  match w.toLower with
  | "" | "u" => some {}
  | "r" => some { raw := true }
  | "b" => some { bytes := true }
  | "rb" | "br" => some { raw := true, bytes := true }
  | "f" => some { formatted := true }
  | "rf" | "fr" => some { raw := true, formatted := true }
  | _ => none

def quoted (w : String) (cs : List Char) : Option (Token × List Char) := do
  let m ← marking? w
  -- what stands between the braces of formatted text is not looked into
  let (out, rest) ← quotation (m.raw || m.formatted) m.bytes cs
  some (if m.bytes then .bytes (out.map fun c => UInt8.ofNat c.toNat)
    else if m.formatted then .formatted
    else .text out, rest)

def longMarks : List String := ["**", "//", "<<", ">>", "==", "!=", "<=", ">=", ":=", "->"]

def singleMarks : List Char :=
  ['(', ')', '[', ']', '\x7b', '\x7d', ',', ':', '+', '-', '~', '*', '/', '%', '@', '&', '|', '^', '<', '>', '=',
    '.']

def mark (c : Char) (cs : List Char) : Option (Token × List Char) :=
  match cs with
  | d :: r =>
    let long := String.ofList [c, d]
    if longMarks.contains long then some (.mark long, r) else single
  | [] => single
where
  single := if singleMarks.contains c then some (.mark c.toString, cs) else none

def token : List Char → Option (Token × List Char)
  | [] => none
  | '.' :: '.' :: '.' :: r => some (.ellipsis, r)
  | c :: r =>
    if c.isDigit || (c = '.' && (r.head?.any Char.isDigit)) then
      (number (c :: r)).map fun (x, rest) => (.number x, rest)
    else if c = '\'' || c = '"' then quoted "" (c :: r)
    else if Text.startsName c then
      let w := String.ofList ((c :: r).takeWhile Text.continuesName)
      let rest := (c :: r).dropWhile Text.continuesName
      match rest with
      | '\'' :: _ | '"' :: _ => quoted w rest
      | _ => some (.word w, rest)
    else mark c r

structure Scan where
  depth : Nat
  -- whether a token has been read, and whether the line began with blanks
  started : Bool
  indented : Bool
deriving Repr

def isOpening (c : Char) : Bool := ['(', '[', '\x7b'].contains c
def isClosing (c : Char) : Bool := [')', ']', '\x7d'].contains c

def isIdle : Nat → List Char → Bool
  | 0, _ | _, [] => true
  | fuel + 1, '#' :: cs => isIdle fuel (cs.dropWhile (· != '\n'))
  | fuel + 1, c :: cs =>
    (c = ' ' || c = '\t' || c = '\n' || c = '\x0c') && isIdle fuel cs

def tokens (s : Scan) : Nat → List Char → Option (List Token)
  | _, [] => if s.depth = 0 then some [] else none
  | 0, _ => none
  | fuel + 1, '#' :: cs => tokens s fuel (cs.dropWhile (· != '\n'))
  | fuel + 1, '\\' :: '\n' :: cs => if cs.isEmpty then none else tokens s fuel cs
  | fuel + 1, c :: cs =>
    if c = ' ' || c = '\t' then tokens { s with indented := true } fuel cs
    else if c = '\x0c' then tokens { s with indented := false } fuel cs
    else if c = '\n' then
      if s.depth = 0 && s.started then if isIdle (cs.length + 1) cs then some [] else none
      else tokens { s with indented := false } fuel cs
    else if !s.started && s.indented then none
    else do
      let (t, rest) ← token (c :: cs)
      let depth := if isOpening c then s.depth + 1 else if isClosing c then s.depth - 1 else s.depth
      let ts ← tokens ⟨depth, true, false⟩ fuel rest
      some (t :: ts)

def unifyLines : List Char → List Char
  | '\r' :: '\n' :: cs => '\n' :: unifyLines cs
  | '\r' :: cs => '\n' :: unifyLines cs
  | c :: cs => c :: unifyLines cs
  | [] => []

def tokenize (cs : List Char) : Option (List Token) :=
  let cs := unifyLines (cs.dropWhile fun c => c = ' ' || c = '\t')
  tokens ⟨0, false, false⟩ (cs.length + 1) cs

end Deferred.Literal
