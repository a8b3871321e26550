import Deferred.CommandLine.Run

-- The program. Each run throws the dice afresh.

set_option autoImplicit false

open Deferred.CommandLine

def main (args : List String) : IO UInt32 := do
  let throws ← (List.range 64).mapM fun _ => IO.rand 0 839
  let o := program args ⟨throws.map Int.ofNat, 0⟩
  IO.print (textOf o.console.out)
  IO.eprint (textOf o.console.err)
  match o.status with
  | .ok n => return n.toUInt32
  | .error e =>
    IO.eprintln (e.message?.getD "the run could not go on")
    return 1
