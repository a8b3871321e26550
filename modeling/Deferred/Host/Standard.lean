import Deferred.Host
import Deferred.Literal.Grammar
import Deferred.Text.Character

-- The surroundings that the program runs in. No class of another program is known there.

set_option autoImplicit false

namespace Deferred.Host

def drawing (text : String) (start width : Nat) (margin caption : String) : String :=
  -- the text, less the blanks it ends with; tabs before the underlined part are kept, so that the line stays
  -- under the text however wide they are shown
  let blanks := (margin.toList ++ text.toList.take start).map fun c => if c = '\t' then c else ' '
  let underline := blanks ++ List.replicate width '^'
  margin ++ String.ofList (Text.trimRight text.toList) ++ "\n" ++ String.ofList underline ++ " " ++ caption

instance standard : Host where
  room := 0x10000000
  isInstance _ _ := false
  isSubclass _ _ := false
  offersUnary _ _ := false
  offersLeft _ _ := false
  offersRight _ _ := false
  illustration := drawing
  parse := Literal.parse

end Deferred.Host
