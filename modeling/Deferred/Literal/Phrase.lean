import Deferred.Item

-- What a literal is read from. Only the forms that a value is made of are told apart.

set_option autoImplicit false

namespace Deferred.Literal

inductive Phrase where
  | constant (x : Item)
  | positive (p : Phrase)
  | negative (p : Phrase)
  | plus (p q : Phrase)
  | minus (p q : Phrase)
  | tuple (ps : List Phrase)
  | list (ps : List Phrase)
  | set (ps : List Phrase)
  | dict (ps : List Phrase)
  | emptySet
  | name (w : String)
  -- any other expression, whatever it holds
  | other
deriving Repr, Inhabited

end Deferred.Literal
