import Deferred.Text.Name
import Deferred.Text.Quoted

-- Quoted literals: where the body of one ends, and what its escapes stand for.

set_option autoImplicit false

namespace Deferred.Literal

structure Quotation where
  raw : Bool
  bytes : Bool
  quote : Char
  -- three quotes on either side; such a body may run over lines
  triple : Bool
deriving Repr

def body (q : Quotation) : List Char → Option (List Char × List Char)
  -- The body up to the closing quotes, and what follows them. A backslash keeps the next character
  -- in the body, whatever it is.
  | [] => none
  | '\\' :: c :: cs => (body q cs).map fun (b, r) => ('\\' :: c :: b, r)
  | c :: cs =>
    if c = q.quote then
      if !q.triple then some ([], cs)
      else
        match cs with
        | d :: e :: r =>
          if d = q.quote && e = q.quote then some ([], r)
          else (body q cs).map fun (b, r) => (c :: b, r)
        | _ => (body q cs).map fun (b, r) => (c :: b, r)
    else if c = '\n' && !q.triple then none
    else (body q cs).map fun (b, r) => (c :: b, r)

def isHex (c : Char) : Bool := c.isDigit || ('a' ≤ c && c ≤ 'f') || ('A' ≤ c && c ≤ 'F')

def isOctal (c : Char) : Bool := '0' ≤ c && c ≤ '7'

def hexValue (c : Char) : Nat :=
  if c.isDigit then c.toNat - 48 else c.toLower.toNat - 87

def baseValue (base : Nat) (cs : List Char) : Nat := cs.foldl (fun n c => base * n + hexValue c) 0

def plainEscape? : Char → Option Char
  | '\\' => some '\\'
  | '\'' => some '\''
  | '"' => some '"'
  | 'a' => some '\x07'
  | 'b' => some '\x08'
  | 'f' => some '\x0c'
  | 'n' => some '\n'
  | 'r' => some '\r'
  | 't' => some '\t'
  | 'v' => some '\x0b'
  | _ => none

def hexLength? (bytes : Bool) : Char → Option Nat
  | 'x' => some 2
  | 'u' => if bytes then none else some 4
  | 'U' => if bytes then none else some 8
  | _ => none

def characterNamed : List Char → Option (List Char × List Char)
  | '\x7b' :: cs => do
    let name := cs.takeWhile (· ≠ '\x7d')
    let c ← Text.named? (String.ofList name)
    match cs.drop name.length with
    | [] => none
    | _ :: cs => some ([c], cs)
  | _ => none

def escape (bytes : Bool) : List Char → Option (List Char × List Char)
  | [] => none
  | '\n' :: cs => some ([], cs)
  | c :: cs =>
    if isOctal c then
      let ds := (c :: cs).take 3 |>.takeWhile isOctal
      let n := baseValue 8 ds
      some ([Char.ofNat (if bytes then n % 256 else n)], (c :: cs).drop ds.length)
    else
      match plainEscape? c, hexLength? bytes c with
      | some e, _ => some ([e], cs)
      | none, some k =>
        let ds := cs.take k
        if ds.length = k && ds.all isHex && baseValue 16 ds ≤ 0x10ffff then
          some ([Char.ofNat (baseValue 16 ds)], cs.drop k)
        else none
      | none, none => if c = 'N' && !bytes then characterNamed cs else some (['\\', c], cs)

def unescape (bytes : Bool) : Nat → List Char → Option (List Char)
  -- the text that a body stands for; its length is fuel enough
  | 0, _ | _, [] => some []
  | fuel + 1, '\\' :: cs => do
    let (out, cs) ← escape bytes cs
    let rest ← unescape bytes fuel cs
    some (out ++ rest)
  | fuel + 1, c :: cs => (unescape bytes fuel cs).map (c :: ·)

def quotation (raw bytes : Bool) (cs : List Char) : Option (List Char × List Char) := do
  let (q, cs) ← match cs with
    | a :: b :: c :: r =>
      if a = b && b = c then some (Quotation.mk raw bytes a true, r)
      else some (Quotation.mk raw bytes a false, b :: c :: r)
    | a :: r => some (Quotation.mk raw bytes a false, r)
    | [] => none
  let (b, rest) ← body q cs
  let out ← if raw then some b else unescape bytes b.length b
  if bytes && b.any (fun c => 0x80 ≤ c.toNat) then none else some (out, rest)

end Deferred.Literal
