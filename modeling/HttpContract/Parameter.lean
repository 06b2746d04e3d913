import HttpContract.Hint.Shape

/-!
# Parameters

A parameter of a method: its place, its hint without annotations, the annotations, and its default. The
receiver of the method is not among them.
-/

namespace HttpContract

inductive ParameterKind where
  | positionalOnly
  | normal
  | keywordOnly
deriving Repr, DecidableEq, Inhabited

structure Parameter where
  methodName : String
  index : Int
  name : String
  hint : Hint := .any
  metadata : List Marker := []
  default : Option Value := none
  kind : ParameterKind := .normal
deriving Repr, Inhabited

namespace Parameter

/-- The first annotation of a kind. -/
def find? (p : Parameter) (kind : MarkerKind) : Option Marker := p.metadata.find? (·.isA kind)

def has (p : Parameter) (kind : MarkerKind) : Bool := (p.find? kind).isSome

/-- The parameter may be given the absent value in place of its type. -/
def isOptional (p : Parameter) : Bool := p.hint.optional.2

end Parameter

/-! ## Arguments as text -/

/-- The longest literal that is shown whole. -/
def shownLength : Nat := 80

def shorten (s : String) : String :=
  if shownLength < s.length then String.ofList (s.toList.take shownLength) ++ "..." else s

/-- Arguments as `name=value` pairs; long values are cut. -/
def argumentsText (names : List String) (values : List Value) : String :=
  ", ".intercalate ((names.zip values).map fun a => a.1 ++ "=" ++ shorten a.2.literal)

end HttpContract
