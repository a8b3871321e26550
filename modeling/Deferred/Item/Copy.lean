import Deferred.Item

-- Which items are their own copies: nothing that never changes needs a second one.

set_option autoImplicit false

namespace Deferred.Item

def isOwnCopy : Item → Bool
  | .celsius _ | .list _ | .dict .. | .set _ | .meters .. | .clock .. => false
  | .tuple f _ => f == .plain
  | _ => true

mutual

def isOwnDeepCopy : Item → Bool
  | .tuple f xs => f == .plain && areOwnDeepCopies xs
  | x => x.isOwnCopy

def areOwnDeepCopies : List Item → Bool
  | [] => true
  | x :: xs => isOwnDeepCopy x && areOwnDeepCopies xs

end

end Deferred.Item
