import HttpContract.Method.Basic
import HttpContract.Failure
import HttpContract.Log
import HttpContract.Service.Interface

/-!
# Compiling interfaces

The members of an interface are read, and those that are methods are compiled in the order of the names they
are found under. Compilation stops at the first that cannot be compiled, and leaves a record for each one
before it.
-/

namespace HttpContract.Interfaces

def compileRecord (m : Method) : LogRecord :=
  let body := if m.plan.operation.takesBodyType then m.plan.bodyType.text else ""
  { logger := .compile
    text := "Compiled " ++ m.qualname ++ "(): " ++ m.template.summary ++ " -> "
      ++ m.plan.operation.name ++ "(" ++ body ++ ")"
    service := some m.service
    method := some m.name }

/-- Compiles one method of the interface at a place. -/
def compileMethod (is : Interfaces) (scope : Scope) (registry : Registry) (blockTimeout : Value)
    (place : Nat) : Callable → Except Failure Method
  | .nameless => .error .namelessMember
  | .function f =>
    let service := is.nameAt place
    (Method.compile scope service (is.findExchange place) registry blockTimeout f).mapError
      (Failure.ofCompile (service ++ "." ++ f.name))

/-- Compiles in order, up to the first that cannot be compiled; with the records until then. -/
def compileEach (compile : Callable → Except Failure Method) :
    List Callable → Except Failure (List Method) × List LogRecord
  | [] => (.ok [], [])
  | f :: rest =>
    match compile f with
    | .error e => (.error e, [])
    | .ok m =>
      let (ms, log) := compileEach compile rest
      (ms.map (m :: ·), compileRecord m :: log)

/-- Compiles all methods of the interface at a place. -/
def compile (is : Interfaces) (scope : Scope) (registry : Registry) (blockTimeout : Value)
    (place : Nat) : Except Failure (List Method) × List LogRecord :=
  match is.fault? place with
  | some e => (.error (.raised e), [])
  | none =>
    compileEach (is.compileMethod scope registry blockTimeout place)
      ((is.exchangeMethods place).map Prod.snd)

end HttpContract.Interfaces
