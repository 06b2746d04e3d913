import HttpContract.Iteration
import HttpContract.Operation
import HttpContract.Request

/-!
# Transports

A transport performs requests. It answers an operation with a publisher: something to await for a single
reply, or a stream of elements. Its state is the world `σ`, its publishers are of a type `π` of its own.
-/

namespace HttpContract

/-! ## Replies -/

/-- The body of an entity: a value, or a stream of the type `β`. -/
inductive Body (β : Type) where
  | value (v : Value)
  | stream (s : β)
deriving Inhabited

/-- A single reply. -/
inductive Reply (β : Type) where
  | value (v : Value)
  | headers (h : Headers)
  | entity (status : Int) (headers : Headers) (body : Body β)
deriving Inhabited

namespace Reply

variable {β γ : Type}

/-- Replaces the stream of an entity's body. -/
def mapStream (f : β → γ) : Reply β → Reply γ
  | value v => value v
  | headers h => headers h
  | entity status hs (.value v) => entity status hs (.value v)
  | entity status hs (.stream s) => entity status hs (.stream (f s))

def isNull : Reply β → Bool
  | value v => v.isNull
  | _ => false

end Reply

/-! ## Publishers of a transport -/

/-- Whether a publisher is awaited once or yields elements. -/
inductive Shape where
  | single
  | stream
deriving Repr, DecidableEq, Inhabited

structure Transport (σ π : Type) where
  /-- The publisher for an operation; the hint is the type of the body, where the operation has one. -/
  call : Operation → Option Hint → Request → σ → Except Failure π × σ
  shape : π → Shape
  isCoroutine : π → Bool
  await : π → σ → Outcome (Reply π) × σ
  /-- How fast a single reply comes. -/
  pace : π → σ → Pace := fun _ _ => {}
  cancel : π → σ → σ
  next : π → σ → Pull Value × π × σ
  close : π → σ → Except Failure Unit × π × σ

/-- The shape that a publisher of an operation has to have. -/
def Operation.shape : Operation → Shape
  | .bodyFlux => .stream
  | _ => .single

end HttpContract
