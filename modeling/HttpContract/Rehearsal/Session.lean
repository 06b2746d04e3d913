import HttpContract.Rehearsal.Shown
import HttpContract.Rehearsal.Resolvers
import HttpContract.Rehearsal.ScriptedTransport
import HttpContract.Service.Client

/-!
# Sessions

A session makes clients with one factory and calls them, over a scripted transport with scripted
resolvers. Each step leaves events on the stage and records in the log.
-/

namespace HttpContract.Rehearsal

structure Session where
  interfaces : Interfaces := {}
  scope : Scope
  resolvers : List (Resolver Stage) := []
  factory : Factory
  client : Option Client := none
  /-- The place of the interface of the client. -/
  place : Nat := 0
  context : Context Stage

namespace Session

/-! ## Events and records -/

/-- The events and records since the last time, which are then forgotten. -/
def takeTrace (s : Session) : List Event × List LogRecord × Session :=
  (s.context.world.events, s.context.log,
    { s with context := { s.context with
        world := { s.context.world with events := [] }, log := [] } })

def withLog (log : List LogRecord) (s : Session) : Session :=
  { s with context := { s.context with log := s.context.log ++ log } }

/-! ## Clients -/

/-- Makes a client current; when it cannot be made, the one before stays. -/
def openClient (place : Nat) (s : Session) : Except Failure Client × Session :=
  match s.factory.createClient s.interfaces s.scope place with
  | (.ok client, log) => (.ok client, { s with client := some client, place }.withLog log)
  | (.error e, log) => (.error e, s.withLog log)

/-- The current client; without one, the attribute that was asked for is missing. -/
def current (name : String) (s : Session) : Except Failure Client :=
  match s.client with
  | some client => .ok client
  | none => .error (.noClient name)

/-- The attribute in which a client keeps its dispatcher. -/
def dispatcherAttribute : String := "_dispatcher"

def dispatcher (s : Session) : Except Failure Dispatcher :=
  (s.current dispatcherAttribute).map Client.dispatcher

/-- The method of a name in the current client's dispatcher. -/
def method (name : String) (s : Session) : Except Failure Method :=
  match s.dispatcher with
  | .ok d => d.find name
  | .error e => .error e

/-- Whether a method still is what its interface calls by its name. -/
def holdsFunction (m : Method) (s : Session) : Bool :=
  match s.interfaces.find? s.place m.name with
  | some (.callable (.function f)) => m.function.isSame f
  | _ => false

/-- The public attributes of the current client. -/
def publicNames (s : Session) : List String := (s.client.map Client.publicNames).getD []

def summary (s : Session) : String := (s.client.map Client.summary).getD Value.null.literal

/-! ## Calls -/

def demand (take : Option Nat) (s : Session) : Demand :=
  { take, bound := s.context.world.bound }

/-- Counts a call whose request is about to be built. -/
def enterCall (s : Session) : Session :=
  let stage := s.context.world
  { s with context := { s.context with world := { stage with call := stage.call + 1 } } }

/-- Notes a request that was left incomplete. -/
def leaveCall (request : Option Request) (s : Session) : Session :=
  let stage := s.context.world
  match request with
  | some r =>
    if r.complete then s
    else { s with context := { s.context with
             world := { stage with openCalls := stage.call :: stage.openCalls } } }
  | none => s

/-- Performs a call and shows its result. -/
def perform (take : Option Nat)
    (call : Context Stage → Method.Call Handle × Context Stage) (s : Session) : Shown × Session :=
  let s := s.enterCall
  let (made, context) := call s.context
  let s := { s with context }.leaveCall made.request
  let (shown, context) := showResult scripted (s.demand take) made.result s.context
  (shown, { s with context })

/-- Calls an attribute of the client. -/
def call (name : String) (positional : List Value) (named : Assoc String Value) (take : Option Nat)
    (s : Session) : Shown × Session :=
  match s.current name with
  | .error e => (.failed e, s)
  | .ok client => s.perform take (client.call scripted s.resolvers name positional named)

/-- Calls a method by its name. -/
def dispatch (name : String) (arguments : List Value) (take : Option Nat) (s : Session) :
    Shown × Session :=
  match s.dispatcher with
  | .error e => (.failed e, s)
  | .ok d => s.perform take (d.invoke scripted s.resolvers name arguments)

/-- Calls a method by what an interface has under a name: a function, or the text of a name. -/
def dispatchFunction (place : Nat) (name : String) (arguments : List Value) (take : Option Nat)
    (s : Session) : Shown × Session :=
  match s.dispatcher with
  | .error e => (.failed e, s)
  | .ok d =>
    match (Thing.interface place).get s.interfaces name with
    | .error e => (.failed (.ofAccess e), s)
    | .ok (.function f _) => s.perform take (d.invokeFunction scripted s.resolvers f arguments)
    | .ok (.value (.str method)) => s.perform take (d.invoke scripted s.resolvers method arguments)
    | .ok thing =>
      match thing.name s.interfaces name with
      | .error e => (.failed (.noAttribute e), s)
      | .ok method => (.failed (d.refusal method), s)

/-- Binds arguments without calling. -/
def bind (name : String) (positional : List Value) (named : Assoc String Value) (s : Session) :
    Except Failure (List Value) :=
  match s.method name with
  | .error e => .error e
  | .ok m => m.bindArguments positional named

/-- Performs a request that a declaration makes, for a declared result. -/
def execute (result : Hint) (exchange : Option Exchange) (timeout : Value) (name : String)
    (take : Option Nat) (s : Session) : Shown × Session :=
  match Plan.compile result s.factory.registry timeout, Template.compile exchange none with
  | .error e, _ => (.failed (.ofPlan e), s)
  | _, .error e => (.failed (.template e), s)
  | .ok plan, .ok template =>
    match template.newRequest with
    | (.error e, _) => (.failed (.request e), s)
    | (.ok (), r) =>
      let (result, context) := plan.execute scripted name r.finish s.context
      let (shown, context) := showResult scripted (s.demand take) result context
      (shown, { s with context })

/-! ## Dispatchers -/

/-- The names of a dispatcher over methods of the current client. -/
def regroup (names : List String) (s : Session) : Except Failure (List String) :=
  match names.mapM s.method with
  | .error e => .error e
  | .ok ms => (Dispatcher.ofMethods ms).map Dispatcher.names

/-! ## The loop -/

def close (s : Session) : Session := { s with context := s.context.stop }

end Session

end HttpContract.Rehearsal
