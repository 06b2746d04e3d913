import HttpContract.Hint.Basic

/-!
# The shape of a hint

What the compilation of a result looks at: the hint under its annotations, its class, its type
arguments, and whether it declares no value or an optional one.
-/

namespace HttpContract.Hint

/-- The hint under its annotations. -/
def unwrap : Hint → Hint
  | annotated inner _ => inner
  | h => h

/-- The annotations of a hint, in order. -/
def metadata : Hint → List Marker
  | annotated _ ms => ms
  | _ => []

/-- The hint declares no value. -/
def isVoid : Hint → Bool
  | nothing => true
  | cls c => c = .void
  | _ => false

/-- The class of the absent value as a member of a union. -/
def isVoidClass : Hint → Bool
  | cls c => c = .void
  | _ => false

/-- The other member of a union of two of which one is the absent value; any other hint itself. -/
def optional (h : Hint) : Hint × Bool :=
  match h with
  | union _ [a, b] =>
    match a.isVoidClass, b.isVoidClass with
    | false, true => (a, true)
    | true, false => (b, true)
    | _, _ => (h, false)
  | _ => (h, false)

/-- What remains of a hint without its arguments. -/
def origin (h : Hint) : Hint :=
  match h.unwrap with
  | generic c _ => cls c
  | union true _ => cls .unionType
  | union false _ => form .union
  | literal _ => form .literal
  | callable _ _ => cls .callable
  | g => g

/-- The class a hint names, if it names one. -/
def class? : Hint → Option Class
  | cls c => some c
  | _ => none

/-- The class of the values that a hint describes, if it is a class. -/
def rawClass? (h : Hint) : Option Class := h.origin.class?

/-! ## Type arguments -/

def args (h : Hint) : List Hint :=
  match h.unwrap with
  | generic _ xs => xs
  | union _ ms => ms
  | literal vs => vs.map value
  | callable none result => [ellipsis, result]
  | callable (some params) result => [sequence params, result]
  | _ => []

/-- The type argument at a place, counted from the end when the place is negative. An undeclared one admits
anything, and before the first there is none. -/
def typeArg? (h : Hint) (i : Int) : Option Hint :=
  let xs := h.args
  let place := if i < 0 then xs.length + i else i
  if place < 0 then none else some (((xs[place.toNat]?).map unwrap).getD any)

def firstArg (h : Hint) : Hint := (h.typeArg? 0).getD any

end HttpContract.Hint
