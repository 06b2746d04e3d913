import HttpContract.Adapter
import HttpContract.Hint.Shape

/-!
# The registry of adapters

Adapters are kept in the order in which they are looked up, at most one for a container. A class is
served by the adapter of the class itself, else by the first adapter of a class above it.
-/

namespace HttpContract

structure Registry where
  adapters : List Adapter := []
deriving Repr, Inhabited

namespace Registry

def empty : Registry := {}

/-- The adapters that need no registration. -/
def default : Registry where
  adapters :=
    [ { container := .awaitable },
      { container := .coroutine, valueArg := 2, conversion := .coroutine },
      { container := .future, conversion := .future },
      { container := .asyncIterator, multiValue := true, native := .asyncIterator },
      { container := .asyncIterable, multiValue := true, native := .asyncIterator },
      { container := .iterator, multiValue := true, native := .iterator, conversion := .iterator } ]

/-- Adds an adapter at the end and drops the one for the same container. -/
def register (r : Registry) (a : Adapter) : Registry :=
  ⟨r.adapters.filter (fun b => !decide (b.container = a.container)) ++ [a]⟩

def registerAll (r : Registry) (as : List Adapter) : Registry := as.foldl register r

def size (r : Registry) : Nat := r.adapters.length

/-- The adapter that serves a class. -/
def find? (r : Registry) (c : Class) : Option Adapter :=
  (r.adapters.find? fun a => a.container = c).or
    (r.adapters.find? fun a => c.isSubclassOf a.container)

/-- The adapter of a hint, which has to be a class. -/
def findHint? (r : Registry) (h : Hint) : Option Adapter := h.class?.bind r.find?

/-- The adapter of the class that a hint is built on. -/
def findOrigin? (r : Registry) (h : Hint) : Option Adapter := r.findHint? h.origin

end Registry

end HttpContract
