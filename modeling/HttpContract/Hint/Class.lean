/-!
# Classes

A class is known by its name and by the names of the classes above it. Everything is under `object`. A
class that declares variables for its arguments takes hints for them.
-/

namespace HttpContract

structure Class where
  name : String
  ancestors : List String := []
  /-- Its arguments are hints, so that the absent value among them stands for its class. -/
  takesHints : Bool := false
deriving Repr, DecidableEq, Inhabited

namespace Class

/-- The class of everything. -/
def top : Class := { name := "object" }

/-- Whether instances of the first class are instances of the second. -/
def isSubclassOf (c d : Class) : Bool := c = d || d = top || c.ancestors.contains d.name

theorem isSubclassOf_refl (c : Class) : c.isSubclassOf c = true := by simp [isSubclassOf]

/-! ## Plain data -/

def int : Class := { name := "int" }
def float : Class := { name := "float" }
def bool : Class := { name := "bool", ancestors := ["int"] }
def str : Class := { name := "str", ancestors := ["Iterable"] }
def bytes : Class := { name := "bytes", ancestors := ["Iterable"] }
def list : Class := { name := "list", ancestors := ["Iterable"] }
def tuple : Class := { name := "tuple", ancestors := ["Iterable"] }
def dict : Class := { name := "dict", ancestors := ["Iterable"] }
def set : Class := { name := "set", ancestors := ["Iterable"] }
def type : Class := { name := "type" }

/-- The class of the absent value. -/
def void : Class := { name := "NoneType" }

/-- Stands for a type that is not declared. -/
def any : Class := { name := "Any" }

/-! ## Containers of one value and streams -/

def awaitable : Class := { name := "Awaitable" }
def coroutine : Class := { name := "Coroutine", ancestors := ["Awaitable"] }
def future : Class := { name := "Future" }
def task : Class := { name := "Task", ancestors := ["Iterable", "Awaitable"] }
def asyncIterable : Class := { name := "AsyncIterable" }
def asyncIterator : Class := { name := "AsyncIterator", ancestors := ["AsyncIterable"] }
def asyncGenerator : Class :=
  { name := "AsyncGenerator", ancestors := ["AsyncIterator", "AsyncIterable"] }
def iterable : Class := { name := "Iterable" }
def iterator : Class := { name := "Iterator", ancestors := ["Iterable"] }
def generator : Class := { name := "Generator", ancestors := ["Iterator", "Iterable"] }

/-! ## Parts of a response -/

def headers : Class := { name := "Headers", ancestors := ["Iterable"] }
def responseEntity : Class := { name := "ResponseEntity", takesHints := true }

/-! ## Classes of compound hints -/

/-- The class of a union written with a bar. -/
def unionType : Class := { name := "UnionType" }

def callable : Class := { name := "Callable" }

/-- The classes that every interface may name. -/
def builtin : List Class :=
  [int, str, float, bool, bytes, top, dict, list, tuple, set, type, void, any, headers,
    responseEntity, awaitable, coroutine, asyncIterator, asyncIterable, asyncGenerator, iterator,
    iterable, generator, future, task]

end Class

end HttpContract
