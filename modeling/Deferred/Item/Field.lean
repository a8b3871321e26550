import Deferred.Failure
import Deferred.Host
import Deferred.Text.Field

-- Items set in fields: expressions and strings take the field specifications of text.

set_option autoImplicit false

namespace Deferred.Item

variable [Host]

def layText (text spec : String) : Except Failure String :=
  match Text.Field.read? spec with
  | Option.none => .error .invalid
  | some f =>
    if Host.room < f.width.getD 0 then .error .exhausted
    else .ok (String.ofList (f.lay text.toList))

def inField (x : Item) (spec : String) : Except Failure String :=
  match x with
  | .str s => layText s spec
  | x =>
    if x.isExpression then layText x.text spec
    else if spec.isEmpty then .ok x.text
    else .error .unsupported

end Deferred.Item
