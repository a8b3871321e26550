import Deferred.Template.Directive

-- Text and byte templates: literal parts and directives, filled from left to right.

set_option autoImplicit false

namespace Deferred.Template

def Directive.cut (d : Directive) (cs : List Char) : List Char :=
  match d.precision with
  | some p => cs.take p
  | none => cs

def character : Item → Except Trouble Char
  | .str s =>
    match s.toList with
    | [c] => .ok c
    | _ => .error .unsupported
  | x =>
    match x.int? with
    | some n =>
      if n < -greatestCount - 1 ∨ greatestCount < n then .error .unsupported
      else if n < 0 ∨ 0x10ffff < n then .error (.fault .characterRange)
      else .ok (Char.ofNat n.toNat)
    | none => .error .unsupported

def written (x : Item) (s : String) : Except Trouble (List Char) :=
  if x.isWritable then .ok s.toList else .error .invalid

variable [Host]

def Directive.convert (d : Directive) (x : Item) : Except Trouble (List Char) :=
  if d.letter = 's' then do d.lay false (d.cut (← written x x.text))
  else if d.letter = 'r' then do d.lay false (d.cut (← written x x.repr))
  else if d.letter = 'a' then do d.lay false (d.cut (← written x (Text.asciiOnly x.repr)))
  else if isIntegerLetter d.letter then d.integer x
  else if isFloatLetter d.letter then d.floating x
  else if d.letter = 'c' then do d.lay false [← character x]
  else .error .invalid

def byte : Item → Except Trouble Char
  | .bytes [b] => .ok (Char.ofNat b.toNat)
  | x =>
    match x.int? with
    | some n => if n < 0 ∨ 255 < n then .error (.fault .byteRange) else .ok (Char.ofNat n.toNat)
    | none => .error .unsupported

def Directive.convertBytes (d : Directive) (x : Item) : Except Trouble (List Char) :=
  -- bytes stand as the characters of the same codes while a byte template is filled
  if d.letter = 's' || d.letter = 'b' then
    match x with
    | .bytes bs => d.lay false (d.cut (bs.map fun b => Char.ofNat b.toNat))
    | _ => .error .unsupported
  else if d.letter = 'r' || d.letter = 'a' then do d.lay false (d.cut (← written x (Text.asciiOnly x.repr)))
  else if isIntegerLetter d.letter then d.integer x
  else if isFloatLetter d.letter then d.floating x
  else if d.letter = 'c' then do d.lay false [← byte x]
  else .error .invalid

def fill (convert : Directive → Item → Except Trouble (List Char)) :
    Nat → List Char → Supply → Except Trouble (List Char)
  -- fills the template; each step reads at least one character, so its length is fuel enough
  | 0, _, s | _, [], s => if s.mapping.isNone && !s.rest.isEmpty then .error .unsupported else .ok []
  | fuel + 1, '%' :: cs, s => do
    let (d, cs, s) ← directive cs s
    if d.letter = '%' then
      let out ← fill convert fuel cs s
      .ok ('%' :: out)
    else
      let (x, s) ← s.next
      let piece ← convert d x
      let out ← fill convert fuel cs s
      .ok (piece ++ out)
  | fuel + 1, c :: cs, s => do
    let out ← fill convert fuel cs s
    .ok (c :: out)

def supply (isMapping : Item → Bool) (x : Item) : Supply :=
  { rest := match x with
      | .tuple _ xs => xs
      | x => [x]
    mapping := if isMapping x then some x else none }

def isMapping : Item → Bool
  | .dict .. | .list _ | .bytes _ => true
  | _ => false

def isByteMapping : Item → Bool
  | .dict .. | .list _ => true
  | _ => false

def fillText (template : String) (x : Item) : Except Trouble Item := do
  let cs := template.toList
  let out ← fill Directive.convert cs.length cs (supply isMapping x)
  .ok (.str (String.ofList out))

def fillBytes (template : List UInt8) (x : Item) : Except Trouble Item := do
  let cs := template.map fun b => Char.ofNat b.toNat
  let out ← fill Directive.convertBytes cs.length cs (supply isByteMapping x)
  .ok (.bytes (out.map fun c => UInt8.ofNat c.toNat))

end Deferred.Template
