import CallForest.Text.Utf8

/-!
# Ordered maps between byte strings

A map from byte strings to byte strings as a list of its entries, in increasing lexicographic order
of the keys. The entries whose keys begin with a given stem come out in that order.
-/

namespace CallForest

namespace Bytes

/-- Lexicographic order. -/
def before : Bytes → Bytes → Bool
  | _, [] => false
  | [], _ :: _ => true
  | a :: as, b :: bs => a < b || (a == b && before as bs)

end Bytes

/-- The entries of a map, by increasing key. -/
abbrev KeyMap := List (Bytes × Bytes)

namespace KeyMap

/-- The value of a key. -/
def find? (key : Bytes) (m : KeyMap) : Option Bytes :=
  (List.find? (fun e => e.1 = key) m).map Prod.snd

/-- Sets the value of a key. -/
def insert (key value : Bytes) : KeyMap → KeyMap
  | [] => [(key, value)]
  | (k, v) :: m =>
    if k = key then (key, value) :: m
    else if key.before k then (key, value) :: (k, v) :: m
    else (k, v) :: insert key value m

/-- The entries whose keys begin with `stem`, by increasing key. -/
def scan (stem : Bytes) (m : KeyMap) : KeyMap :=
  m.filter fun e => stem.isPrefixOf e.1

end KeyMap

end CallForest
