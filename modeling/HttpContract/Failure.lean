import HttpContract.Binding
import HttpContract.Limit
import HttpContract.Method.Basic
import HttpContract.Raised
import HttpContract.Service.Thing

/-!
# Failures

All that can go wrong between the compilation of an interface and the result of a call, with the text
that reports it.
-/

namespace HttpContract

inductive Failure where
  /-- A method of an interface cannot be compiled. -/
  | definition (method : String) (e : DefinitionError)
  /-- A plan alone cannot be compiled: the body of an entity is in a container of a single value. -/
  | plan (container : String)
  /-- A template alone cannot be compiled. -/
  | template (e : Template.Error)
  /-- A member that can be called has no name. -/
  | namelessMember
  | duplicateMethod (name : String)
  | timeoutNotPositive (timeout : Value)
  | timeoutNotComparable (kind : String)
  | noMethod (name : String)
  | noClientMethod (service name : String)
  | noAttribute (e : MissingAttribute)
  | notCallable (kind : String)
  /-- There is no client to look the attribute up in. -/
  | noClient (name : String)
  /-- A function is not the one that the method of its name was compiled from. -/
  | otherFunction (given compiled : String)
  | binding (method : String) (e : Binding.Error)
  | argumentCount (method : String) (expected given : Nat)
  | request (e : Request.Error)
  | unknownVerb (v : Value)
  | timedOut (name seconds : String)
  /-- The limit of a wait that took too long is no number of seconds. -/
  | noSeconds (e : Value.SecondsError)
  /-- The limit of a wait cannot be waited for. -/
  | unusableLimit (e : Limit.Error)
  /-- No error: a wait without a limit, for work that never finishes, goes on. -/
  | unending
  /-- Waiting on the background loop from within it. -/
  | blockedOnLoop
  /-- A publisher of the wrong shape. -/
  | wrongShape
  /-- An error of a collaborator. -/
  | raised (e : Raised)
deriving Repr, Inhabited

/-! ## Kinds -/

/-- The kinds of errors that a program may tell apart. -/
inductive ErrorKind where
  /-- An interface cannot be compiled. -/
  | definition
  | missingModule
  | missingAttribute
  | wrongValue
  | other
deriving Repr, DecidableEq, Inhabited

/-- The kind of an error of a collaborator. -/
def Raised.errorKind (e : Raised) : ErrorKind :=
  if e.isA Raised.definition then .definition
  else if e.isA "ImportError" then .missingModule
  else if e.isA "AttributeError" then .missingAttribute
  else if e.isA "ValueError" then .wrongValue
  else .other

namespace Failure

def kind : Failure → ErrorKind
  | definition .. | plan _ | template _ => .definition
  | namelessMember | noMethod _ | noClientMethod .. | noAttribute _ | noClient _ | otherFunction .. =>
    .missingAttribute
  | duplicateMethod _ | timeoutNotPositive _ | unknownVerb _ | noSeconds .isText | request (.header _) =>
    .wrongValue
  | timeoutNotComparable _ | notCallable _ | binding .. | argumentCount .. | request _ | timedOut ..
  | noSeconds _ | unusableLimit _ | unending | blockedOnLoop | wrongShape => .other
  | raised e => e.errorKind

/-- The failure of the compilation of a method of an interface. -/
def ofCompile (method : String) : CompileError → Failure
  | .definition e => definition method e
  | .escaped e => raised e

/-- The failure of reading an attribute. -/
def ofAccess : AccessError → Failure
  | .missing e => noAttribute e
  | .raised e => raised e

/-- The failure of the compilation of a plan alone. -/
def ofPlan : Plan.Error → Failure
  | .singleValueBody container => plan container
  | .noTypeArg => raised Plan.Error.outOfRange

/-! ## Messages -/

def message : Failure → String
  | definition method e => method ++ "(): " ++ e.message
  | plan container => (Plan.Error.singleValueBody container).message
  | template e => e.message
  | namelessMember => (MissingAttribute.ofThing Callable.namelessKind Thing.nameAttribute).message
  | duplicateMethod name => "Duplicate service method name: " ++ name
  | timeoutNotPositive timeout => "block_timeout must be > 0, got " ++ timeout.text
  | timeoutNotComparable kind => "'<=' not supported between instances of '" ++ kind ++ "' and 'int'"
  | noMethod name => "No HTTP exchange method '" ++ name ++ "'"
  | noClientMethod service name => service ++ " has no HTTP exchange method '" ++ name ++ "'"
  | noAttribute e => e.message
  | notCallable kind => "'" ++ kind ++ "' object is not callable"
  | noClient name => (MissingAttribute.ofThing Value.null.kindName name).message
  | otherFunction given compiled => given ++ "() is not " ++ compiled ++ "()"
  | binding method e => method ++ "(): " ++ e.message
  | argumentCount method expected given =>
    "Method argument mismatch: " ++ method ++ "() takes " ++ toString expected ++ " arguments, got "
      ++ toString given
  | request e => e.message
  | unknownVerb v => v.literal ++ " is not a valid HTTPMethod"
  | timedOut name seconds => name ++ "() did not complete within " ++ seconds ++ "s"
  | noSeconds e => e.message
  | unusableLimit e => e.message
  | unending => ""
  | blockedOnLoop =>
    "Cannot block on the event loop thread; declare an async return type instead"
  | wrongShape => "the publisher has not the shape that is asked for"
  | raised e => e.message

/-- What asking a future for its result raises when the time for it is over. -/
def expired : Failure := raised { kind := Raised.timeout, text := "" }

/-- The failure of a wait for something that did not complete within a limit. -/
def timeout (name : String) (limit : Value) : Failure :=
  match limit.seconds with
  | .ok seconds => timedOut name seconds
  | .error e => noSeconds e

/-- The failure of a call that took too long, of this one or of one inside the awaited work. -/
def isTimeout : Failure → Bool
  | timedOut _ _ => true
  | raised e => e.isA "ExchangeTimeoutError"
  | _ => false

/-- Anything that took too long, calls and waits among them. -/
def isLate : Failure → Bool
  | raised e => e.isA Raised.timeout
  | e => e.isTimeout

/-- The failure as the future of the work gives it. -/
def handedOver : Failure → Failure
  | raised e => raised e.handedOver
  | e => e

end Failure

/-! ## Carriers -/

/-- What errors are raised in. -/
inductive Carrier where
  | coroutine
  | stream
deriving Repr, DecidableEq, Inhabited

namespace Carrier

def name : Carrier → String
  | coroutine => "coroutine"
  | stream => "async generator"

/-- The errors by which iterations of its own would end. -/
def reserved : Carrier → List String
  | coroutine => ["StopIteration"]
  | stream => ["StopIteration", "StopAsyncIteration"]

/-- An error as it leaves its carrier: one that would end an iteration is reported as such. -/
def released (carrier : Carrier) : Failure → Failure
  | .raised e =>
    match carrier.reserved.find? e.isA with
    | some kind => .raised { kind := "RuntimeError", text := carrier.name ++ " raised " ++ kind }
    | none => .raised e
  | e => e

end Carrier

/-! ## Verbs -/

/-- The verb that a value names exactly. -/
def Verb.ofValue (v : Value) : Except Failure Verb :=
  match v with
  | .str s =>
    match Verb.ofName? s with
    | some verb => .ok verb
    | none => .error (.unknownVerb v)
  | _ => .error (.unknownVerb v)

end HttpContract
