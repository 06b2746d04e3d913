import HttpContract.Hint.Text

/-!
# Adapters

An adapter turns what the transport gives, a single awaited value or a stream, into a container that an
interface declares.
-/

namespace HttpContract

/-- How an adapter makes its container. -/
inductive Conversion where
  /-- What the transport gives is the container. -/
  | identity
  /-- A coroutine that awaits the value. -/
  | coroutine
  /-- A future that the background loop completes. -/
  | future
  /-- An iterator that pulls elements through the background loop. -/
  | iterator
  /-- A container of a foreign kind, known by its label. -/
  | box (label : String)
deriving Repr, DecidableEq, Inhabited

structure Adapter where
  container : Class
  /-- The container carries any number of values instead of at most one. -/
  multiValue : Bool := false
  /-- The container only completes. -/
  noValue : Bool := false
  /-- What the adapter takes from the transport. -/
  native : Class := .awaitable
  /-- The place of the type argument that names the carried value. -/
  valueArg : Int := 0
  conversion : Conversion := .identity
deriving Repr, DecidableEq, Inhabited

namespace Adapter

def name (a : Adapter) : String := a.container.name

/-- Two adapters agree when they differ at most in their conversion. -/
def agrees (a b : Adapter) : Bool := { a with conversion := b.conversion } = b

end Adapter

end HttpContract
