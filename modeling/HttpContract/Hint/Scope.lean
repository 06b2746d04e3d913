import HttpContract.Hint.Basic

/-!
# Looking up hints by name

A hint may name another one that is declared later. `Scope.resolve` replaces such names, from left to
right; dotted names are members of classes. A name is any text that is evaluated for a hint, so looking it up
may raise whatever evaluating it raises.
-/

namespace HttpContract

namespace Class

/-- The name of a class without those of the classes around it. A task is known by that of its module
too. -/
def ownName (c : Class) : String :=
  if c = task then "_asyncio.Task" else (Text.pieces '.' c.name).getLast?.getD c.name

end Class

structure Scope where
  find? : String → Option Hint
  member? : Class → String → Option Hint
  /-- The error that evaluating a text raises, where it is no name or has no value. -/
  raises? : String → Option Raised := fun _ => none

/-- A name that cannot be looked up. -/
inductive ScopeError where
  | undefined (name : String)
  | noMember (owner : Class) (name : String)
  | noAttribute (kind name : String)
  | raised (e : Raised)
deriving Repr, DecidableEq, Inhabited

def ScopeError.message : ScopeError → String
  | undefined name => "name '" ++ name ++ "' is not defined"
  | noMember owner name => "type object '" ++ owner.ownName ++ "' has no attribute '" ++ name ++ "'"
  | noAttribute kind name => "'" ++ kind ++ "' object has no attribute '" ++ name ++ "'"
  | raised e => e.message

namespace Scope

/-- Follows the parts of a dotted name after its first. -/
def follow (scope : Scope) : Hint → List String → Except ScopeError Hint
  | h, [] => .ok h
  | .cls c, name :: rest =>
    match scope.member? c name with
    | some h => scope.follow h rest
    | none => .error (.noMember c name)
  | .typeVar _, name :: _ => .error (.noAttribute "TypeVar" name)
  | _, name :: _ => .error (.noAttribute Class.void.name name)

/-- A name alone. -/
def lookUp (scope : Scope) (name : String) : Except ScopeError Hint :=
  match scope.raises? name, Text.pieces '.' name with
  | some e, _ => .error (.raised e)
  | none, [] => .error (.undefined name)
  | none, first :: rest =>
    match scope.find? first with
    | none => .error (.undefined first)
    | some h => (scope.follow h rest).map Hint.asClass

mutual

/-- The hint with every name in it looked up. -/
def resolve (scope : Scope) : Hint → Except ScopeError Hint
  | .forward name => scope.lookUp name
  | .generic c args => return .genericOf c (← scope.resolveAll args)
  | .union barred ms => return .unionOf barred (← scope.resolveAll ms)
  | .annotated inner ms => return (← scope.resolve inner).annotate ms
  | .callable none result => return .callable none (← scope.resolve result)
  | .callable (some params) result => do
    let params ← scope.resolveAll params
    return .callable (some params) (← scope.resolve result)
  | h => .ok h

def resolveAll (scope : Scope) : List Hint → Except ScopeError (List Hint)
  | [] => .ok []
  | h :: hs => do
    let h ← scope.resolve h
    return h :: (← scope.resolveAll hs)

end

/-- The hint of a parameter or of a result. -/
def resolveDeclared (scope : Scope) (h : Hint) : Except ScopeError Hint :=
  (scope.resolve h).map Hint.asClass

end Scope

end HttpContract
