import Deferred.Literal.Phrase
import Deferred.Literal.Token

-- The grammar of expressions. Much of it is no literal, but what stands before the first part that is none may fail
-- to be read first, and that takes the whole expression to be well formed.

set_option autoImplicit false

namespace Deferred.Literal

def reserved : List String :=
  ["False", "None", "True", "and", "as", "assert", "async", "await", "break", "class", "continue", "def",
    "del", "elif", "else", "except", "finally", "for", "from", "global", "if", "import", "in", "is",
    "lambda", "nonlocal", "not", "or", "pass", "raise", "return", "try", "while", "with", "yield"]

def wordPhrase (w : String) : Option Phrase :=
  match w with
  | "True" => some (.constant (.bool true))
  | "False" => some (.constant (.bool false))
  | "None" => some (.constant .none)
  | w => if reserved.contains w then none else some (.name w)

inductive Quoted where
  | text (cs : List Char)
  | bytes (bs : List UInt8)
  | formatted

def Quoted.phrase : Quoted → Phrase
  | text cs => .constant (.str (String.ofList cs))
  | bytes bs => .constant (.bytes bs)
  | formatted => .other

def Quoted.more : Quoted → List Token → Option (Phrase × List Token)
  | text cs, .text ds :: ts => more (text (cs ++ ds)) ts
  | bytes bs, .bytes ds :: ts => more (bytes (bs ++ ds)) ts
  | formatted, .text _ :: ts | text _, .formatted :: ts | formatted, .formatted :: ts => more formatted ts
  | bytes _, .text _ :: _ | bytes _, .formatted :: _ | text _, .bytes _ :: _ | formatted, .bytes _ :: _ => none
  | q, ts => some (q.phrase, ts)

-- the loosest operators have the lowest rank; those of one rank group from the left
def operator? : List Token → Option (Nat × String × List Token)
  | .word "or" :: ts => some (1, "or", ts)
  | .word "and" :: ts => some (2, "and", ts)
  | .word "not" :: .word "in" :: ts => some (4, "not in", ts)
  | .word "is" :: .word "not" :: ts => some (4, "is not", ts)
  | .word "in" :: ts => some (4, "in", ts)
  | .word "is" :: ts => some (4, "is", ts)
  | .mark m :: ts =>
    match m with
    | "==" | "!=" | "<" | ">" | "<=" | ">=" => some (4, m, ts)
    | "|" => some (5, m, ts)
    | "^" => some (6, m, ts)
    | "&" => some (7, m, ts)
    | "<<" | ">>" => some (8, m, ts)
    | "+" | "-" => some (9, m, ts)
    | "*" | "/" | "//" | "%" | "@" => some (10, m, ts)
    | _ => none
  | _ => none

def operation (m : String) (p q : Phrase) : Phrase :=
  match m with
  | "+" => .plus p q
  | "-" => .minus p q
  | _ => .other

mutual

def isTarget : Phrase → Bool
  -- what a loop can assign to; a call is not told apart from what can be
  | .name _ | .other => true
  | .tuple ps | .list ps => areTargets ps
  | _ => false

def areTargets : List Phrase → Bool
  | [] => true
  | p :: ps => isTarget p && areTargets ps

end

inductive Stage where
  -- how far the arguments of a call have got: named ones come last, and those of a mapping behind them
  | placed | named | mapped
deriving DecidableEq

mutual

def expression : Nat → List Token → Option (Phrase × List Token)
  | 0, _ => none
  | fuel + 1, .word "lambda" :: ts => do
    let ts ← parameters fuel ts
    let (_, ts) ← expression fuel ts
    some (.other, ts)
  | fuel + 1, ts => do
    let (p, ts) ← binary fuel 1 ts
    match ts with
    | .word "if" :: ts => do
      let (_, ts) ← binary fuel 1 ts
      match ts with
      | .word "else" :: ts => do
        let (_, ts) ← expression fuel ts
        some (.other, ts)
      | _ => none
    | ts => some (p, ts)

def parameters : Nat → List Token → Option (List Token)
  | 0, _ => none
  | _ + 1, .mark ":" :: ts => some ts
  | fuel + 1, .mark "*" :: .mark "," :: .word w :: ts => parameters fuel (.word w :: ts)
  | fuel + 1, .mark "*" :: ts | fuel + 1, .mark "**" :: ts | fuel + 1, ts =>
    match ts with
    | .word w :: .mark "=" :: ts => do
      let (_, ts) ← expression fuel ts
      if reserved.contains w then none else moreParameters fuel ts
    | .word w :: ts => if reserved.contains w then none else moreParameters fuel ts
    | _ => none

def moreParameters : Nat → List Token → Option (List Token)
  | 0, _ => none
  | _ + 1, .mark ":" :: ts => some ts
  | fuel + 1, .mark "," :: .mark "/" :: ts => moreParameters fuel ts
  | fuel + 1, .mark "," :: ts => parameters fuel ts
  | _ + 1, _ => none

def binary : Nat → Nat → List Token → Option (Phrase × List Token)
  | 0, _, _ => none
  | fuel + 1, rank, .word "not" :: ts =>
    if 3 < rank then none
    else do
      let (_, ts) ← binary fuel 3 ts
      binaryFrom fuel rank .other ts
  | fuel + 1, rank, ts => do
    let (p, ts) ← signed fuel ts
    binaryFrom fuel rank p ts

def binaryFrom : Nat → Nat → Phrase → List Token → Option (Phrase × List Token)
  | 0, _, _, _ => none
  | fuel + 1, rank, p, ts =>
    match operator? ts with
    | some (r, m, rest) =>
      if r < rank then some (p, ts)
      else do
        let (q, ts) ← binary fuel (r + 1) rest
        binaryFrom fuel rank (operation m p q) ts
    | none => some (p, ts)

def signed : Nat → List Token → Option (Phrase × List Token)
  | 0, _ => none
  | fuel + 1, .mark "+" :: ts => (signed fuel ts).map fun (p, ts) => (.positive p, ts)
  | fuel + 1, .mark "-" :: ts => (signed fuel ts).map fun (p, ts) => (.negative p, ts)
  | fuel + 1, .mark "~" :: ts => (signed fuel ts).map fun (_, ts) => (.other, ts)
  | fuel + 1, .word "await" :: ts => do
    let (_, ts) ← primary fuel ts
    raised fuel .other ts
  | fuel + 1, ts => do
    let (p, ts) ← primary fuel ts
    raised fuel p ts

def raised : Nat → Phrase → List Token → Option (Phrase × List Token)
  | fuel + 1, _, .mark "**" :: ts => (signed fuel ts).map fun (_, ts) => (.other, ts)
  | _, p, ts => some (p, ts)

def primary : Nat → List Token → Option (Phrase × List Token)
  | 0, _ => none
  | fuel + 1, ts => do
    let (p, ts) ← atom fuel ts
    trailers fuel p ts

def trailers : Nat → Phrase → List Token → Option (Phrase × List Token)
  | 0, _, _ => none
  | fuel + 1, _, .mark "." :: .word w :: ts => if reserved.contains w then none else trailers fuel .other ts
  | fuel + 1, .name "set", .mark "(" :: .mark ")" :: ts => trailers fuel .emptySet ts
  | fuel + 1, _, .mark "(" :: .mark ")" :: ts => trailers fuel .other ts
  | fuel + 1, _, .mark "(" :: ts => do
    let ts ← arguments fuel .placed ts
    trailers fuel .other ts
  | fuel + 1, _, .mark "[" :: ts => do
    let ts ← slices fuel ts
    trailers fuel .other ts
  | _ + 1, p, ts => some (p, ts)

def arguments : Nat → Stage → List Token → Option (List Token)
  | 0, _, _ => none
  | fuel + 1, stage, ts => do
    let (stage, ts) ← match ts with
      | .mark "*" :: ts =>
        if stage = .mapped then none else (expression fuel ts).map fun (_, ts) => (stage, ts)
      | .mark "**" :: ts => (expression fuel ts).map fun (_, ts) => (Stage.mapped, ts)
      | .word w :: .mark "=" :: ts =>
        if reserved.contains w then none
        else (expression fuel ts).map fun (_, ts) => (if stage = .placed then Stage.named else stage, ts)
      | ts => if stage = .placed then (assignable fuel ts).map fun (_, _, ts) => (stage, ts) else none
    match ts with
    | .mark ")" :: ts | .mark "," :: .mark ")" :: ts => some ts
    | .mark "," :: ts => arguments fuel stage ts
    | .word "for" :: _ | .word "async" :: _ => do
      -- values made one by one, which must then be the only argument
      match ← loops fuel ts with
      | .mark ")" :: ts => some ts
      | _ => none
    | _ => none

def slices : Nat → List Token → Option (List Token)
  | 0, _ => none
  | fuel + 1, ts => do
    let ts ← match ts with
      | .mark "*" :: ts => (binary fuel 5 ts).map Prod.snd
      | .mark ":" :: _ => sliced fuel ts
      | ts => do
        let (_, _, ts) ← assignable fuel ts
        sliced fuel ts
    match ts with
    | .mark "]" :: ts | .mark "," :: .mark "]" :: ts => some ts
    | .mark "," :: ts => slices fuel ts
    | _ => none

def sliced : Nat → List Token → Option (List Token)
  | 0, _ => none
  | fuel + 1, .mark ":" :: ts =>
    match ts with
    | .mark ":" :: _ | .mark "]" :: _ | .mark "," :: _ => sliced fuel ts
    | ts => do
      let (_, ts) ← expression fuel ts
      sliced fuel ts
  | _ + 1, ts => some ts

def assignable : Nat → List Token → Option (Phrase × Bool × List Token)
  -- an expression, or one that names its value; whether it is the former
  | 0, _ => none
  | fuel + 1, .word w :: .mark ":=" :: ts => do
    let (_, ts) ← expression fuel ts
    if reserved.contains w then none else some (.other, false, ts)
  | fuel + 1, ts => (expression fuel ts).map fun (p, ts) => (p, true, ts)

def element : Nat → List Token → Option (Phrase × Bool × List Token)
  | 0, _ => none
  | fuel + 1, .mark "*" :: ts => (binary fuel 5 ts).map fun (_, ts) => (.other, false, ts)
  | fuel + 1, ts => assignable fuel ts

def elements : Nat → String → List Token → Option (List Phrase × List Token)
  -- elements with commas between them, up to the closing mark
  | 0, _, _ => none
  | fuel + 1, close, ts =>
    match ts with
    | .mark m :: rest => if m = close then some ([], rest) else moreElements fuel close ts
    | ts => moreElements fuel close ts

def moreElements : Nat → String → List Token → Option (List Phrase × List Token)
  | 0, _, _ => none
  | fuel + 1, close, ts => do
    let (p, _, ts) ← element fuel ts
    match ts with
    | .mark "," :: ts => do
      let (ps, ts) ← elements fuel close ts
      some (p :: ps, ts)
    | .mark m :: ts => if m = close then some ([p], ts) else none
    | _ => none

def loops : Nat → List Token → Option (List Token)
  | 0, _ => none
  | fuel + 1, .word "async" :: .word "for" :: ts | fuel + 1, .word "for" :: ts => do
    let ts ← targets fuel ts
    let (_, ts) ← binary fuel 1 ts
    conditions fuel ts
  | _ + 1, _ => none

def conditions : Nat → List Token → Option (List Token)
  | 0, _ => none
  | fuel + 1, .word "if" :: ts => do
    let (_, ts) ← binary fuel 1 ts
    conditions fuel ts
  | fuel + 1, .word "for" :: ts => loops fuel (.word "for" :: ts)
  | fuel + 1, .word "async" :: ts => loops fuel (.word "async" :: ts)
  | _ + 1, ts => some ts

def targets : Nat → List Token → Option (List Token)
  | 0, _ => none
  | fuel + 1, ts => do
    let (p, ts) ← match ts with
      | .mark "*" :: ts => primary fuel ts
      | ts => primary fuel ts
    if isTarget p then
      match ts with
      | .word "in" :: ts | .mark "," :: .word "in" :: ts => some ts
      | .mark "," :: ts => targets fuel ts
      | _ => none
    else none

def atom : Nat → List Token → Option (Phrase × List Token)
  | 0, _ => none
  | _ + 1, .number x :: ts => some (.constant x, ts)
  | _ + 1, .ellipsis :: ts => some (.constant .ellipsis, ts)
  | _ + 1, .text cs :: ts => Quoted.more (.text cs) ts
  | _ + 1, .bytes bs :: ts => Quoted.more (.bytes bs) ts
  | _ + 1, .formatted :: ts => Quoted.more .formatted ts
  | _ + 1, .word w :: ts => (wordPhrase w).map (·, ts)
  | _ + 1, .mark "(" :: .mark ")" :: ts => some (.tuple [], ts)
  | fuel + 1, .mark "(" :: .word "yield" :: ts => yielded fuel ts
  | fuel + 1, .mark "(" :: ts => do
    let starred := match ts with
      | .mark "*" :: _ => true
      | _ => false
    let (p, _, ts) ← element fuel ts
    match ts with
    | .mark ")" :: ts => if starred then none else some (p, ts)
    | .mark "," :: ts => do
      let (ps, ts) ← elements fuel ")" ts
      some (.tuple (p :: ps), ts)
    | ts => do
      let ts ← loops fuel ts
      closed starred ")" ts
  | _ + 1, .mark "[" :: .mark "]" :: ts => some (.list [], ts)
  | fuel + 1, .mark "[" :: ts => do
    let starred := match ts with
      | .mark "*" :: _ => true
      | _ => false
    let (p, _, ts) ← element fuel ts
    match ts with
    | .mark "]" :: ts => some (.list [p], ts)
    | .mark "," :: ts => do
      let (ps, ts) ← elements fuel "]" ts
      some (.list (p :: ps), ts)
    | ts => do
      let ts ← loops fuel ts
      closed starred "]" ts
  | _ + 1, .mark "\x7b" :: .mark "\x7d" :: ts => some (.dict [], ts)
  | fuel + 1, .mark "\x7b" :: .mark "**" :: ts => do
    let (ps, ts) ← entries fuel (.mark "**" :: ts)
    some (.dict ps, ts)
  | fuel + 1, .mark "\x7b" :: ts => do
    let starred := match ts with
      | .mark "*" :: _ => true
      | _ => false
    let (p, plain, rest) ← element fuel ts
    match rest with
    | .mark ":" :: rest =>
      if plain then do
        let (q, rest) ← expression fuel rest
        match rest with
        | .word "for" :: _ | .word "async" :: _ => do
          let rest ← loops fuel rest
          closed false "\x7d" rest
        | _ => do
          let (ps, rest) ← moreEntries fuel rest
          some (.dict (p :: q :: ps), rest)
      else none
    | .mark "\x7d" :: ts => some (.set [p], ts)
    | .mark "," :: ts => do
      let (ps, ts) ← elements fuel "\x7d" ts
      some (.set (p :: ps), ts)
    | ts => do
      let ts ← loops fuel ts
      closed starred "\x7d" ts
  | _ + 1, _ => none

def closed (starred : Bool) (close : String) : List Token → Option (Phrase × List Token)
  | .mark m :: ts => if m = close && !starred then some (.other, ts) else none
  | _ => none

def yielded : Nat → List Token → Option (Phrase × List Token)
  | 0, _ => none
  | _ + 1, .mark ")" :: ts => some (.other, ts)
  | fuel + 1, .word "from" :: ts => do
    let (_, ts) ← expression fuel ts
    closed false ")" ts
  | fuel + 1, ts => do
    let (_, ts) ← moreElements fuel ")" ts
    some (.other, ts)

def entries : Nat → List Token → Option (List Phrase × List Token)
  -- keys and values, of which there is at least one pair; those of another mapping have no key
  | 0, _ => none
  | fuel + 1, ts => do
    let (p, q, ts) ← match ts with
      | .mark "**" :: ts => (binary fuel 5 ts).map fun (q, ts) => (Phrase.other, q, ts)
      | ts => do
        let (p, ts) ← expression fuel ts
        match ts with
        | .mark ":" :: ts => (expression fuel ts).map fun (q, ts) => (p, q, ts)
        | _ => none
    let (ps, ts) ← moreEntries fuel ts
    some (p :: q :: ps, ts)

def moreEntries : Nat → List Token → Option (List Phrase × List Token)
  | 0, _ => none
  | _ + 1, .mark "\x7d" :: ts | _ + 1, .mark "," :: .mark "\x7d" :: ts => some ([], ts)
  | fuel + 1, .mark "," :: ts => entries fuel ts
  | _ + 1, _ => none

end

def toEnd : Nat → Nat → List Token → Option (List Phrase)
  | 0, _, _ => none
  | _ + 1, _, [] => some []
  | n + 1, fuel, ts => do
    let (p, ts) ← expression fuel ts
    match ts with
    | [] => some [p]
    | .mark "," :: ts => (toEnd n fuel ts).map (p :: ·)
    | _ => none

def phrase (ts : List Token) : Option Phrase :=
  -- A whole expression; with a comma outside brackets it is a tuple. Each token takes part in at most twelve
  -- nested calls.
  let fuel := 12 * ts.length + 12
  match toEnd (ts.length + 1) fuel ts with
  | none | some [] => none
  | some [p] => some (match ts.getLast? with
    | some (.mark ",") => .tuple [p]
    | _ => p)
  | some ps => some (.tuple ps)

def parse (cs : List Char) : Option Phrase :=
  -- a null character is not allowed anywhere, not even between quotes
  if cs.contains '\x00' then none else (tokenize cs).bind phrase

end Deferred.Literal
