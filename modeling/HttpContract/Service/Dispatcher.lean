import HttpContract.Invocation

/-!
# Dispatchers

A dispatcher holds compiled methods, one for a name, and routes calls to them by name or by function. A
function is routed only to the method that was compiled from it.
-/

namespace HttpContract

structure Dispatcher where
  methods : List Method := []
deriving Repr, Inhabited

namespace Dispatcher

def names (d : Dispatcher) : List String := d.methods.map Method.name

def size (d : Dispatcher) : Nat := d.methods.length

def contains (d : Dispatcher) (name : String) : Bool := d.names.contains name

/-- Methods with pairwise different names; the first repeated name is refused. -/
def ofMethods (ms : List Method) : Except Failure Dispatcher :=
  match go [] ms with
  | some name => .error (.duplicateMethod name)
  | none => .ok ⟨ms⟩
where
  go (seen : List String) : List Method → Option String
    | [] => none
    | m :: rest => if seen.contains m.name then some m.name else go (m.name :: seen) rest

/-- The method of a name. -/
def find (d : Dispatcher) (name : String) : Except Failure Method :=
  match d.methods.find? fun m => m.name = name with
  | some m => .ok m
  | none => .error (.noMethod name)

/-- The method that was compiled from a function. -/
def findFunction (d : Dispatcher) (f : Function) : Except Failure Method :=
  match d.find f.name with
  | .error e => .error e
  | .ok m => if m.function.isSame f then .ok m else .error (.otherFunction f.qualname m.qualname)

/-- Why something of a name that is no function of an interface is routed to no method. -/
def refusal (d : Dispatcher) (name : String) : Failure :=
  match d.find name with
  | .error e => e
  | .ok m => .otherFunction name m.qualname

/-! ## Calls -/

variable {σ π : Type}

/-- Calls the method of a name. -/
def invoke (t : Transport σ π) (resolvers : List (Resolver σ)) (d : Dispatcher) (name : String)
    (arguments : List Value) (c : Context σ) : Method.Call π × Context σ :=
  match d.find name with
  | .error e => ({ result := .error e }, c)
  | .ok m => m.invoke t resolvers arguments c

/-- Calls the method that was compiled from a function. -/
def invokeFunction (t : Transport σ π) (resolvers : List (Resolver σ)) (d : Dispatcher)
    (f : Function) (arguments : List Value) (c : Context σ) : Method.Call π × Context σ :=
  match d.findFunction f with
  | .error e => ({ result := .error e }, c)
  | .ok m => m.invoke t resolvers arguments c

end Dispatcher

end HttpContract
