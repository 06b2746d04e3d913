import HttpContract.Plan
import HttpContract.Publisher

/-!
# Executing a plan

The transport is asked for the plan's operation, its publisher is wrapped as the plan says, and the
result is either the container of the return adapter or, without one, the reply that the call waits for.
-/

namespace HttpContract

/-- What a call gives its caller. -/
inductive Result (π : Type) where
  | reply (r : Reply (Container π))
  | container (c : Container π)
deriving Inhabited

namespace Plan

variable {σ π : Type}

/-- Wraps what the transport gives. -/
def wrap (p : Plan) (native : π) : Publisher π :=
  let publisher := match p.bodyAdapter with
    | some a => Publisher.rewrapped (.native native) a
    | none => .native native
  if p.liftsSingle then .lifted publisher (p.operation != .void) else publisher

/-- The type that the transport is told. -/
def toldType (p : Plan) : Option Hint :=
  if p.operation.takesBodyType then some p.bodyType else none

/-- Asks the transport for the plan's operation. -/
def request (t : Transport σ π) (p : Plan) (r : Request) (w : σ) : Except Failure (Publisher π) × σ :=
  match t.call p.operation p.toldType r w with
  | (.ok native, w) => (.ok (p.wrap native), w)
  | (.error e, w) => (.error e, w)

/-! ## Records -/

def callRecord (p : Plan) (name text : String) : LogRecord :=
  { logger := .invoke, text, method := some name, operation := some p.operation.name }

/-- The warning of a wait that took too long, with its limit where that is a number of seconds. -/
def timeoutRecord? (p : Plan) (name : String) : Option LogRecord :=
  match p.blockTimeout.seconds with
  | .ok seconds =>
    some { p.callRecord name (name ++ "() timed out after " ++ seconds ++ "s") with level := .warning }
  | .error _ => none

def completionRecord (p : Plan) (name : String) {β : Type} (r : Reply β) : LogRecord :=
  p.callRecord name <|
    if r.isNull then
      name ++ "() completed without a value (optional=" ++ (Value.bool p.blockForOptional).literal
        ++ ")"
    else name ++ "() completed"

/-! ## Execution -/

/-- The container of an adapter; a future is handed to the loop at once. -/
def handOver (a : Adapter) (publisher : Publisher π) (c : Context σ) : Container π × Context σ :=
  (a.convert publisher, if a.conversion = .future then c.start else c)

/-- Waits for a reply and records how that went. -/
def await (t : Transport σ π) (p : Plan) (name : String) (publisher : Publisher π) (c : Context σ) :
    Except Failure (Reply (Container π)) × Context σ :=
  match c.run (publisher.awaitable t) p.blockTimeout name with
  | (.ok r, c) => (.ok r, c.note (p.completionRecord name r))
  | (.error e, c) =>
    (.error e, if e.isTimeout then (p.timeoutRecord? name).elim c c.note else c)

/-- The name of a call that has no method. -/
def anonymousCall : String := "exchange"

/-- Performs a complete request. -/
def execute (t : Transport σ π) (p : Plan) (name : String) (r : Request) (c : Context σ) :
    Except Failure (Result π) × Context σ :=
  match p.request t r c.world with
  | (.error e, world) => (.error e, { c with world })
  | (.ok publisher, world) =>
    let c := { c with world }
    match p.returnAdapter with
    | some a =>
      let (container, c) := handOver a publisher c
      (.ok (.container container), c)
    | none =>
      match p.await t name publisher c with
      | (.ok reply, c) => (.ok (.reply reply), c)
      | (.error e, c) => (.error e, c)

end Plan

end HttpContract
