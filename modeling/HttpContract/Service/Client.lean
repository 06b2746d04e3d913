import HttpContract.Service.Compilation
import HttpContract.Service.Dispatcher

/-!
# Clients

A client stands for a compiled interface: its public attributes call the methods of a dispatcher. Clients
are made by a factory, which fixes the adapters and how long a call may wait.
-/

namespace HttpContract

/-- An interface that can be called: its public methods stand for those of the dispatcher. -/
structure Client where
  service : String
  dispatcher : Dispatcher
deriving Repr, Inhabited

namespace Client

/-- The method behind an attribute. -/
def method (client : Client) (name : String) : Except Failure Method :=
  if Interfaces.isPublic name then
    (client.dispatcher.find name).mapError fun _ => .noClientMethod client.service name
  else .error (.noClientMethod client.service name)

/-- The public attributes, in increasing order. -/
def publicNames (client : Client) : List String := Interfaces.publicAmong client.dispatcher.names

def summary (client : Client) : String :=
  "<" ++ client.service ++ " HTTP client (" ++ toString client.dispatcher.size ++ " methods)>"

/-! ## Attributes -/

/-- The class of clients. -/
def className : String := "_HttpServiceProxy"

def classDoc : String :=
  "Client object whose attributes call compiled service methods.\n\n"
    ++ "    Callers are created on first access and cached in the instance dict.\n"
    ++ "    Safe to share across threads: each call builds its own request.\n    "

/-- The kind of what a client keeps besides its methods, where that has no name and cannot be called. -/
def keptKind? : String → Option String
  | "_dispatcher" => some "HttpServiceDispatcher"
  | "__dict__" => some "dict"
  | "__module__" | "__doc__" => some "str"
  | "__weakref__" => some Value.null.kindName
  | _ => none

/-- The functions that all clients have. -/
def ownFunctions : List String := ["__init__", "__getattr__", "__dir__", "__repr__"]

/-- What an attribute of a client says about itself. -/
structure Attribute where
  name : String
  qualname : String
  doc : Option String := none
  /-- Every access gives the same thing. -/
  kept : Bool := true
deriving Repr, DecidableEq, Inhabited

/-- An attribute of a client: one of its methods, the interface it stands for, its class, or a function of
that. -/
def lookUp (client : Client) (name : String) : Except Failure Attribute :=
  match keptKind? name with
  | some kind => .error (.noAttribute (.ofThing kind Thing.nameAttribute))
  | none =>
    if name = "_service_type" then .ok { name := client.service, qualname := client.service }
    else if name = "__class__" then
      .ok { name := className, qualname := className, doc := some classDoc }
    else if ownFunctions.contains name then
      .ok { name, qualname := className ++ "." ++ name, kept := false }
    else
      (client.method name).map fun m => { name, qualname := m.qualname, doc := m.function.doc }

/-! ## Calls -/

variable {σ π : Type}

/-- Calls an attribute: the arguments are bound, then the method is invoked. -/
def call (t : Transport σ π) (resolvers : List (Resolver σ)) (client : Client) (name : String)
    (positional : List Value) (named : Assoc String Value) (c : Context σ) :
    Method.Call π × Context σ :=
  match keptKind? name, client.method name with
  | some kind, _ => ({ result := .error (.notCallable kind) }, c)
  | none, .error e => ({ result := .error e }, c)
  | none, .ok m =>
    match m.bindArguments positional named with
    | .error e => ({ result := .error e }, c)
    | .ok arguments => m.invoke t resolvers arguments c

end Client

/-! ## Factories -/

/-- Makes clients that share a registry, a limit for waits and the background loop of their context. -/
structure Factory where
  registry : Registry := .default
  blockTimeout : Value
deriving Repr, Inhabited

namespace Factory

/-- The seconds that a call waits unless told otherwise. -/
def defaultTimeout : Value := .float (Binary64.ofInt 5)

/-- A factory with a limit, which has to be a number and, unless it is undefined, above zero. -/
def make (registry : Registry) (blockTimeout : Value) : Except Failure Factory :=
  match blockTimeout.number? with
  | none => .error (.timeoutNotComparable blockTimeout.kindName)
  | some x =>
    if x.atMostZero then .error (.timeoutNotPositive blockTimeout)
    else .ok { registry, blockTimeout }

def createdRecord (service : String) (d : Dispatcher) : LogRecord :=
  { logger := .compile
    text := "Created client for " ++ service ++ " with " ++ toString d.size ++ " methods"
    service := some service }

/-- A dispatcher for the interface at a place, with the records of its compilation. -/
def createDispatcher (factory : Factory) (is : Interfaces) (scope : Scope) (place : Nat) :
    Except Failure Dispatcher × List LogRecord :=
  match is.compile scope factory.registry factory.blockTimeout place with
  | (.error e, log) => (.error e, log)
  | (.ok ms, log) =>
    match Dispatcher.ofMethods ms with
    | .error e => (.error e, log)
    | .ok d => (.ok d, log ++ [createdRecord (is.nameAt place) d])

/-- A client for the interface at a place. -/
def createClient (factory : Factory) (is : Interfaces) (scope : Scope) (place : Nat) :
    Except Failure Client × List LogRecord :=
  match factory.createDispatcher is scope place with
  | (.error e, log) => (.error e, log)
  | (.ok dispatcher, log) => (.ok { service := is.nameAt place, dispatcher }, log)

end Factory

end HttpContract
