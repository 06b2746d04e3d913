import HttpContract.Exchange
import HttpContract.Hint.Scope
import HttpContract.Parameter

/-!
# Functions of an interface

A function as its interface writes it: formal parameters with hints and defaults, the hint of its
result, a declaration and a documentation text.
-/

namespace HttpContract

inductive FormalKind where
  | named (kind : ParameterKind)
  /-- Collects the remaining positional arguments. -/
  | variadic
  /-- Collects the remaining named arguments. -/
  | variadicNamed
deriving Repr, DecidableEq, Inhabited

structure Formal where
  name : String
  kind : FormalKind := .named .normal
  hint : Option Hint := none
  default : Option Value := none
deriving Repr, Inhabited

/-- Where a function is written: the place of its interface and its place among the members. -/
structure Home where
  service : Nat
  member : Nat
deriving Repr, DecidableEq, Inhabited

structure Function where
  name : String
  home : Home
  /-- The name with that of the interface where the function is written. -/
  qualname : String
  formals : List Formal := []
  result : Option Hint := none
  declared : Declared := .absent
  doc : Option String := none
  /-- Each access makes a new function that is the same as no other. -/
  fresh : Bool := false
deriving Repr, Inhabited

namespace Function

/-- Two accesses give one and the same function. -/
def isSame (f g : Function) : Bool := !f.fresh && !g.fresh && f.home == g.home

/-- The formal parameters of a method with its receiver in front, which is positional-only when the
first of the others is. -/
def withReceiver (formals : List Formal) : List Formal :=
  let kind := match formals with
    | { kind := .named .positionalOnly, .. } :: _ => ParameterKind.positionalOnly
    | _ => .normal
  { name := "self", kind := .named kind } :: formals

end Function

end HttpContract
