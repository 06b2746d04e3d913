import HttpContract.Operation
import HttpContract.Registry

/-!
# Response plans

A plan says which operation of the transport serves a declared result and how the answer becomes that
result. It is chosen from the hint alone:

* the class of the hint may have an adapter, whose value argument is then looked at; otherwise an
  optional hint stands for its member and the call waits for the answer;
* no value, header fields and response entities have operations of their own;
* anything else is the body, as a stream when the adapter carries several values.
-/

namespace HttpContract

structure Plan where
  operation : Operation
  /-- The type of the body, or of its elements; no value for an operation without a body. -/
  bodyType : Hint := .nothing
  returnAdapter : Option Adapter := none
  /-- The adapter that converts a streamed body of an entity. -/
  bodyAdapter : Option Adapter := none
  blockForOptional : Bool := false
  blockTimeout : Value
  /-- The single answer is lifted into a stream. -/
  liftsSingle : Bool := false
deriving Repr, Inhabited

namespace Plan

inductive Error where
  /-- The body of an entity in a container of a single value. -/
  | singleValueBody (container : String)
  /-- The value of a container is looked for before its first type argument. -/
  | noTypeArg
deriving Repr, DecidableEq, Inhabited

namespace Error

/-- What an index before the first item raises. -/
def outOfRange : Raised where
  kind := "IndexError"
  text := "tuple index out of range"

def message : Error → String
  | singleValueBody container =>
    "ResponseEntity body must be a concrete value or a multi-value async stream, not " ++ container
  | noTypeArg => outOfRange.message

end Error

/-- Whether a call of the plan waits for the answer. -/
def blocking (p : Plan) : Bool := p.returnAdapter.isNone

/-! ## Compilation -/

/-- What the choice of the operation settles. -/
structure Choice where
  operation : Operation
  bodyType : Hint := .nothing
  bodyAdapter : Option Adapter := none
deriving Repr, Inhabited

/-- The operation for an entity with a body of the given hint. -/
def chooseEntity (registry : Registry) (body : Hint) : Except Error Choice :=
  if body.isVoid then .ok { operation := .bodilessEntity } else
    match registry.findOrigin? body with
    | none => .ok { operation := .entity, bodyType := body }
    | some a =>
      if !a.multiValue then .error (.singleValueBody a.name)
      else .ok
        { operation := .entityFlux
          bodyType := body.firstArg
          bodyAdapter := if a.native = .asyncIterator then none else some a }

/-- The operation for a result of the given hint, inside the return adapter if there is one. -/
def choose (registry : Registry) (returnAdapter : Option Adapter) (actual : Hint) :
    Except Error Choice :=
  if actual.isVoid || returnAdapter.any (·.noValue) then .ok { operation := .void } else
    match actual.rawClass? with
    | some c =>
      if c = .headers then .ok { operation := .headers }
      else if c = .responseEntity then chooseEntity registry actual.firstArg
      else .ok (bodyChoice actual)
    | none => .ok (bodyChoice actual)
where
  bodyChoice (actual : Hint) : Choice :=
    { operation := if returnAdapter.any (·.multiValue) then .bodyFlux else .body
      bodyType := actual }

/-- The hint that decides the operation, and whether it was declared optional. -/
def actualHint (returnAdapter : Option Adapter) (declared : Hint) : Except Error (Hint × Bool) :=
  match returnAdapter with
  | some a =>
    match declared.typeArg? a.valueArg with
    | some value => .ok (value, false)
    | none => .error .noTypeArg
  | none => .ok (declared.optional.1.unwrap, declared.optional.2)

/-- The plan for a declared result. -/
def compile (result : Hint) (registry : Registry) (blockTimeout : Value) : Except Error Plan := do
  let declared := result.unwrap
  let returnAdapter := registry.findOrigin? declared
  let actual ← actualHint returnAdapter declared
  let choice ← choose registry returnAdapter actual.1
  return {
    operation := choice.operation
    bodyType := choice.bodyType
    returnAdapter
    bodyAdapter := choice.bodyAdapter
    blockForOptional := actual.2
    blockTimeout
    liftsSingle := returnAdapter.any (·.multiValue) && choice.operation != .bodyFlux }

end Plan

end HttpContract
