import Deferred.Item

-- Giving new things their identities. Whatever has serial zero is new.

set_option autoImplicit false

namespace Deferred

def Binary64.numbered (next : Nat) : Binary64 → Binary64 × Nat
  | .nan 0 => (.nan next, next + 1)
  | x => (x, next)

namespace Item

def serialFor (serial next : Nat) : Nat × Nat := if serial = 0 then (next, next + 1) else (serial, next)

mutual

def numbered (next : Nat) : Item → Item × Nat
  | .float x =>
    let (x, next) := x.numbered next
    (.float x, next)
  | .complex z =>
    let (re, next) := z.re.numbered next
    let (im, next) := z.im.numbered next
    (.complex ⟨re, im⟩, next)
  | .decimal (.nan s q p 0) => (.decimal (.nan s q p next), next + 1)
  | .tuple f xs =>
    let (xs, next) := numberedAll next xs
    (.tuple f xs, next)
  | .list xs =>
    let (xs, next) := numberedAll next xs
    (.list xs, next)
  | .dict ks vs =>
    let (ks, next) := numberedAll next ks
    let (vs, next) := numberedAll next vs
    (.dict ks vs, next)
  | .set xs =>
    let (xs, next) := numberedAll next xs
    (.set xs, next)
  | .meters s kilo n =>
    let (s, next) := serialFor s next
    let (n, next) := numbered next n
    (.meters s kilo n, next)
  | .clock s h =>
    let (s, next) := serialFor s next
    (.clock s h, next)
  | .placeholder s n k =>
    let (s, next) := serialFor s next
    (.placeholder s n k, next)
  | .unary s op x k =>
    let (s, next) := serialFor s next
    let (x, next) := numbered next x
    (.unary s op x k, next)
  | .binary s op l r k =>
    let (s, next) := serialFor s next
    let (l, next) := numbered next l
    let (r, next) := numbered next r
    (.binary s op l r k, next)
  | x => (x, next)

def numberedAll (next : Nat) : List Item → List Item × Nat
  | [] => ([], next)
  | x :: xs =>
    let (x, next) := numbered next x
    let (xs, next) := numberedAll next xs
    (x :: xs, next)

end

end Item

end Deferred
