import HttpContract.Value

/-!
# Likeness of values

Two values are alike when a dictionary takes them for the same key: numbers by what they are worth,
whatever their kind, texts and bytes by what they hold, tuples item by item. `Value.dictOf?` builds a
dictionary without like keys. Lists and dictionaries change over time, and nothing that holds one can be
told apart from other values.
-/

namespace HttpContract

/-! ## Worth -/

/-- What a number is worth. -/
inductive Worth where
  | finite (num : Int) (den : Nat)
  | infinite (negative : Bool)
deriving Repr, DecidableEq, Inhabited

namespace Worth

def same : Worth → Worth → Bool
  | finite a b, finite c d => a * d == c * b
  | infinite s, infinite t => s == t
  | _, _ => false

def ofBinary64? (x : Binary64) : Option Worth :=
  match x.ratio?, x with
  | some (num, den), _ => some (finite num den)
  | none, .infinity negative => some (infinite negative)
  | none, _ => none

end Worth

namespace Value

/-- The worth of a number; an undefined one has none. -/
def worth? : Value → Option Worth
  | bool b => some (.finite (if b then 1 else 0) 1)
  | int n => some (.finite n 1)
  | float x => Worth.ofBinary64? x
  | _ => none

/-! ## Likeness -/

mutual

/-- Whether nothing tells two values apart. A thing of which only the name is known is like no other, and
neither is an undefined number. -/
def alike : Value → Value → Bool
  | null, null => true
  | str a, str b => a == b
  | bytes a, bytes b => a == b
  | tuple xs, tuple ys => alikeEach xs ys
  | v, w =>
    match v.worth?, w.worth? with
    | some a, some b => a.same b
    | _, _ => false

def alikeEach : List Value → List Value → Bool
  | [], [] => true
  | x :: xs, y :: ys => x.alike y && alikeEach xs ys
  | _, _ => false

end

/-- Like values of one kind, which makes them the same in a literal. -/
def sameLiteral (v w : Value) : Bool := v.kindName == w.kindName && v.alike w

/-! ## Changing values -/

/-- The kind of something that changes over time, where something fixed is asked for. -/
structure Changing where
  kind : String
deriving Repr, DecidableEq, Inhabited

def Changing.message (c : Changing) : String := "unhashable type: '" ++ c.kind ++ "'"

mutual

/-- The first list or dictionary in a value. -/
def changing? : Value → Option Changing
  | list xs => some ⟨(list xs).kindName⟩
  | dict es => some ⟨(dict es).kindName⟩
  | tuple xs => changingAmong? xs
  | _ => none

def changingAmong? : List Value → Option Changing
  | [] => none
  | x :: xs => x.changing?.or (changingAmong? xs)

end

/-! ## Dictionaries -/

/-- Gives a key a value; a like key stays in its place and as it is. -/
def putKey (k v : Value) : List (Value × Value) → List (Value × Value)
  | [] => [(k, v)]
  | e :: es => if e.1.alike k then (e.1, v) :: es else e :: putKey k v es

/-- The dictionary of some entries, of which later ones count. -/
def dictOf? (entries : List (Value × Value)) : Except Changing Value :=
  match entries.findSome? fun e => e.1.changing? with
  | some c => .error c
  | none => .ok (dict (entries.foldl (fun es e => putKey e.1 e.2 es) []))

end Value

end HttpContract
