/-!
# Association lists in insertion order

`put` replaces the value of a key where the key stands and appends a new key at the end; `ofList` keeps
each key at its first position with its last value. `Multimap.add` collects all values of a key.
-/

namespace HttpContract

abbrev Assoc (κ α : Type) := List (κ × α)

namespace Assoc

variable {κ α β : Type} [DecidableEq κ]

def get? (m : Assoc κ α) (k : κ) : Option α := (m.find? fun e => e.1 = k).map Prod.snd

def put (k : κ) (v : α) : Assoc κ α → Assoc κ α
  | [] => [(k, v)]
  | e :: m => if e.1 = k then (k, v) :: m else e :: put k v m

def ofList (es : List (κ × α)) : Assoc κ α := es.foldl (fun m e => put e.1 e.2 m) []

def erase (k : κ) (m : Assoc κ α) : Assoc κ α := m.filter fun e => !decide (e.1 = k)

end Assoc

/-! ## Several values to a key -/

abbrev Multimap (κ α : Type) := Assoc κ (List α)

namespace Multimap

variable {κ α : Type} [DecidableEq κ]

/-- Appends a value to those of the key; a new key comes last. -/
def add (k : κ) (v : α) : Multimap κ α → Multimap κ α
  | [] => [(k, [v])]
  | e :: m => if e.1 = k then (e.1, e.2 ++ [v]) :: m else e :: add k v m

end Multimap

end HttpContract
