import Deferred.Literal

-- Assignments of the form `NAME=VALUE`, where the value is a literal.

set_option autoImplicit false

namespace Deferred.CommandLine

inductive AssignmentError where
  | incomplete (text : String)
  | notLiteral (literal : String)
  | unreadable (f : Literal.ReadFault)
deriving DecidableEq, Repr

def AssignmentError.message? : AssignmentError → Option String
  -- the wording, for what is reported; other faults escape as they are
  | incomplete t => some ("expected NAME=VALUE, got " ++ Text.quoted t)
  | notLiteral l => some (Text.quoted l ++ " is not a Python literal")
  | unreadable _ => none

def readAssignment [Host] (text : String) : Except AssignmentError (String × Item) :=
  let before := text.toList.takeWhile (· ≠ '=')
  let name := Text.trim before
  match text.toList.drop before.length with
  | [] => .error (.incomplete text)
  | _ :: literal =>
    if name.isEmpty then .error (.incomplete text)
    else
      match Literal.read (Text.trim literal) with
      | .ok x => .ok (String.ofList name, x)
      | .error .malformed => .error (.notLiteral (String.ofList literal))
      | .error f => .error (.unreadable f)

end Deferred.CommandLine
