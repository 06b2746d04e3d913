import HttpContract.Assoc
import HttpContract.Parameter

/-!
# Binding arguments

Positional arguments are bound to the parameters in order, the others by name; a default fills what is
left. Every error names the first parameter or argument that does not fit.
-/

namespace HttpContract.Binding

inductive Error where
  | missing (name : String)
  | tooMany
  | multiple (name : String)
  | unexpected (name : String)
  | positionalOnly (name : String)
deriving Repr, DecidableEq, Inhabited

def Error.message : Error → String
  | missing name => "missing a required argument: " ++ Text.quote name
  | tooMany => "too many positional arguments"
  | multiple name => "multiple values for argument " ++ Text.quote name
  | unexpected name => "got an unexpected keyword argument " ++ Text.quote name
  | positionalOnly name =>
    Text.quote name ++ " parameter is positional only, but was passed as a keyword"

/-- Binds parameters that no positional argument reaches. -/
def bindNamed : List Parameter → Assoc String Value → Except Error (List Value)
  | [], [] => .ok []
  | [], (name, _) :: _ => .error (.unexpected name)
  | p :: ps, named =>
    match named.get? p.name, p.default with
    | some v, _ =>
      if p.kind = .positionalOnly then .error (.positionalOnly p.name)
      else (bindNamed ps (named.erase p.name)).map (v :: ·)
    | none, some v => (bindNamed ps named).map (v :: ·)
    | none, none => .error (.missing p.name)

/-- One value for every parameter, in order. -/
def bind : List Parameter → List Value → Assoc String Value → Except Error (List Value)
  | ps, [], named => bindNamed ps named
  | [], _ :: _, _ => .error .tooMany
  | p :: ps, v :: vs, named =>
    if p.kind = .keywordOnly then .error .tooMany
    else if p.kind ≠ .positionalOnly ∧ (named.get? p.name).isSome then .error (.multiple p.name)
    else (bind ps vs named).map (v :: ·)

end HttpContract.Binding
