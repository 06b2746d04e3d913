import HttpContract.Execution
import HttpContract.Method.Basic

/-!
# Calls of a method

A call offers each of its arguments to each of the resolvers, parameter by parameter, and each resolver
may edit the request or refuse. Only a request that no resolver refused is completed and performed, once.
-/

namespace HttpContract

/-- Puts an argument where it belongs in a request. -/
structure Resolver (σ : Type) where
  resolve : Value → Parameter → Request → σ → Except Failure Unit × Request × σ

/-- An argument on its way to a resolver. -/
structure Offer (σ : Type) where
  parameter : Parameter
  argument : Value
  resolver : Resolver σ

namespace Method

variable {σ π : Type}

/-! ## The request of a call -/

/-- All offers of a call in their order: by parameter, then by resolver. -/
def offers (m : Method) (resolvers : List (Resolver σ)) (arguments : List Value) : List (Offer σ) :=
  (m.parameters.zip arguments).flatMap fun (parameter, argument) =>
    resolvers.map fun resolver => { parameter, argument, resolver }

/-- Makes offers in order, up to the first that is refused. -/
def resolveAll : List (Offer σ) → Request → σ → Except Failure Unit × Request × σ
  | [], r, w => (.ok (), r, w)
  | o :: rest, r, w =>
    match o.resolver.resolve o.argument o.parameter r w with
    | (.ok (), r, w) => resolveAll rest r w
    | (.error e, r, w) => (.error e, r, w)

/-- The request of a call, complete unless a resolver refused. -/
def prepare (m : Method) (resolvers : List (Resolver σ)) (arguments : List Value) (w : σ) :
    Except Failure Unit × Request × σ :=
  match m.template.newRequest with
  | (.error e, r) => (.error (.request e), r, w)
  | (.ok (), r) =>
    match resolveAll (m.offers resolvers arguments) r w with
    | (.ok (), r, w) => (.ok (), r.finish, w)
    | (.error e, r, w) => (.error e, r, w)

/-! ## The call -/

def invokeRecord (m : Method) (arguments : List Value) : LogRecord :=
  { logger := .invoke
    text := "Invoke " ++ m.qualname ++ "("
      ++ argumentsText (m.parameters.map Parameter.name) arguments ++ ")"
    method := some m.qualname
    operation := some m.plan.operation.name }

/-- What is left of a call: its result, and the request it built unless it was refused at once. -/
structure Call (π : Type) where
  result : Except Failure (Result π)
  request : Option Request := none
deriving Inhabited

/-- Calls the method with one argument for each parameter. -/
def invoke (t : Transport σ π) (resolvers : List (Resolver σ)) (m : Method) (arguments : List Value)
    (c : Context σ) : Call π × Context σ :=
  if arguments.length ≠ m.parameters.length then
    ({ result := .error (.argumentCount m.qualname m.parameters.length arguments.length) }, c)
  else
    let c := c.note (m.invokeRecord arguments)
    match m.prepare resolvers arguments c.world with
    | (.error e, r, world) => ({ result := .error e, request := some r }, { c with world })
    | (.ok (), r, world) =>
      let (result, c) := m.plan.execute t m.qualname r { c with world }
      ({ result, request := some r }, c)

/-- One value for each parameter, from positional arguments, named ones and defaults. -/
def bindArguments (m : Method) (positional : List Value) (named : Assoc String Value) :
    Except Failure (List Value) :=
  (Binding.bind m.parameters positional named).mapError (.binding m.qualname)

end Method

end HttpContract
