import HttpContract.Plan
import HttpContract.Service.Function
import HttpContract.Template

/-!
# Compiled methods

A method of an interface with all that its calls need: parameters, request template and response plan.
Compilation looks up the hints, then builds these three, and stops at the first that cannot be built. It
expects some errors of the evaluation of a hint, and others pass through it.
-/

namespace HttpContract

/-- Why a function cannot be compiled. -/
inductive DefinitionError where
  | undeclared
  | unresolved (e : ScopeError)
  | variadic (formals : List (String × FormalKind))
  | template (e : Template.Error)
  | plan (container : String)
  /-- A definition error of something else, met while a hint is evaluated. -/
  | raised (e : Raised)
deriving Repr, DecidableEq, Inhabited

namespace DefinitionError

def variadicText (formal : String × FormalKind) : String :=
  "'" ++ formal.1 ++ "' is " ++ match formal.2 with
    | .variadicNamed => "**kwargs"
    | _ => "*args"

def message : DefinitionError → String
  | undeclared => "expected an exchange declaration such as @get_exchange"
  | unresolved e => "Failed to resolve type hints: " ++ e.message
  | variadic formals => "unsupported parameters: " ++ ", ".intercalate (formals.map variadicText)
  | template e => e.message
  | plan container => (Plan.Error.singleValueBody container).message
  | raised e => e.message

end DefinitionError

/-- What keeps a function from being compiled. -/
inductive CompileError where
  | definition (e : DefinitionError)
  /-- An error that compilation does not expect. -/
  | escaped (e : Raised)
deriving Repr, DecidableEq, Inhabited

namespace CompileError

/-- The classes of the errors that are expected of the evaluation of a hint. -/
def expected : List String := ["NameError", "AttributeError", "TypeError"]

def ofScope : ScopeError → CompileError
  | .raised e =>
    if expected.any e.isA then .definition (.unresolved (.raised e))
    else if e.isA Raised.definition then .definition (.raised e)
    else .escaped e
  | e => .definition (.unresolved e)

def ofPlan : Plan.Error → CompileError
  | .singleValueBody container => .definition (.plan container)
  | .noTypeArg => .escaped Plan.Error.outOfRange

end CompileError

structure Method where
  /-- The name of the interface that is compiled. -/
  service : String
  function : Function
  parameters : List Parameter
  result : Hint
  template : Template
  plan : Plan
deriving Repr, Inhabited

namespace Method

/-- The name under which the method is dispatched. -/
def name (m : Method) : String := m.function.name

def qualname (m : Method) : String := m.service ++ "." ++ m.name

def summary (m : Method) : String :=
  "HttpServiceMethod(" ++ m.qualname ++ ", " ++ m.plan.operation.name ++ ")"

/-! ## Compilation -/

/-- The formal parameters with their hints looked up. -/
def resolveFormals (scope : Scope) : List Formal → Except ScopeError (List Formal)
  | [] => .ok []
  | f :: fs =>
    match f.hint with
    | none => (resolveFormals scope fs).map (f :: ·)
    | some h => do
      let h ← scope.resolveDeclared h
      return { f with hint := some h } :: (← resolveFormals scope fs)

/-- The hint of the result; a result that declares none has no value. -/
def resolveResult (scope : Scope) : Option Hint → Except ScopeError Hint
  | none => .ok .void
  | some h => scope.resolveDeclared h

/-- The formal parameters of the caller: all but the receiver, which is known by its name. -/
def callerFormals (formals : List Formal) : List Formal := formals.filter (·.name != "self")

/-- The parameters at places from `index` on; the second component holds the variadic formals. -/
def parametersFrom (methodName : String) (index : Nat) :
    List Formal → List Parameter × List (String × FormalKind)
  | [] => ([], [])
  | f :: fs =>
    let (ps, variadic) := parametersFrom methodName (index + 1) fs
    match f.kind with
    | .named kind =>
      let hint := f.hint.getD .any
      ({ methodName, index, name := f.name, hint := hint.unwrap, metadata := hint.metadata,
         default := f.default, kind } :: ps, variadic)
    | kind => (ps, (f.name, kind) :: variadic)

/-- Compiles a function for an interface with the given declaration. -/
def compile (scope : Scope) (service : String) (type : Option Exchange) (registry : Registry)
    (blockTimeout : Value) (f : Function) : Except CompileError Method := do
  match f.declared.exchange? with
  | none => .error (.definition .undeclared)
  | some exchange =>
    let formals ← (resolveFormals scope f.formals).mapError .ofScope
    let result ← (resolveResult scope f.result).mapError .ofScope
    let (parameters, variadic) := parametersFrom f.name 0 (callerFormals formals)
    if !variadic.isEmpty then .error (.definition (.variadic variadic)) else
      let template ← (Template.compile (some exchange) type).mapError fun e => .definition (.template e)
      let plan ← (Plan.compile result registry blockTimeout).mapError .ofPlan
      return { service, function := f, parameters, result, template, plan }

end Method

end HttpContract
