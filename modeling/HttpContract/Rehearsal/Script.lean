import HttpContract.Iteration
import HttpContract.Operation
import HttpContract.Parameter
import HttpContract.Request

/-!
# Scripts

The world of scripted collaborators: the responses that are still to be given and the events that were
seen. A scripted stream yields its items and may fail before one of them or at its end.
-/

namespace HttpContract.Rehearsal

/-! ## Responses -/

/-- How a call of the transport is answered. -/
structure Response where
  status : Int := 200
  headers : List (String × String) := []
  body : Value := .null
  items : List Value := []
  fault : Option Failure := none
  /-- The item before which a stream fails; without one the call itself fails. -/
  faultAt : Option Int := none
  hangs : Bool := false
  /-- A single reply is awaited on something other than a coroutine. -/
  asObject : Bool := false
deriving Repr, Inhabited

/-- A scripted error; one about a key quotes it. -/
def fault (kind text : String) : Failure :=
  .raised { kind, text := if kind = "KeyError" then Text.quote text else text }

/-! ## Events -/

inductive Event where
  | transport (operation : Operation) (bodyType : Option Hint) (request : Request)
  | cancelled
  | streamClosed
  /-- A source was asked to close. -/
  | closeCalled
  | offer (label : String) (parameter : Parameter) (argument : Value)
  /-- A request of an earlier call was edited. -/
  | leak (refused : Option Failure)
  | innerClosed
  | innerOpen
deriving Inhabited

structure Stage where
  responses : List Response := []
  /-- The calls that have been started. -/
  started : Nat := 0
  events : List Event := []
  /-- The number of the current call of a method. -/
  call : Nat := 0
  /-- The calls whose requests were left incomplete. -/
  openCalls : List Nat := []
  /-- The calls whose requests are kept, by the place of the resolver that keeps them. -/
  kept : Assoc Nat Nat := []
deriving Inhabited

namespace Stage

def see (e : Event) (s : Stage) : Stage := { s with events := s.events ++ [e] }

/-- The response to the call that is started next; the last one repeats. -/
def upcoming (s : Stage) : Response :=
  ((s.responses[s.started]?).or s.responses.getLast?).getD {}

/-- The response to the call that was started last. -/
def latest (s : Stage) : Response :=
  ((s.responses[s.started - 1]?).or s.responses.getLast?).getD {}

/-- More elements than any scripted stream has. -/
def bound (s : Stage) : Nat := (s.responses.map fun r => r.items.length).foldl max 0 + 2

end Stage

/-! ## Streams -/

structure ScriptedStream where
  items : List Value
  place : Nat := 0
  fault : Option Failure := none
  faultAt : Option Int := none
  /-- The end of the stream is seen as an event. -/
  announced : Bool := true
  ended : Bool := false
deriving Repr, Inhabited

namespace ScriptedStream

/-- The failure due at the current place. -/
def due (r : ScriptedStream) : Option Failure :=
  match r.faultAt with
  | none => none
  | some i =>
    if i = r.place ∨ (r.items.length ≤ r.place ∧ (r.items.length : Int) ≤ i) then
      r.fault.map Carrier.stream.released
    else none

def finish (r : ScriptedStream) (s : Stage) : ScriptedStream × Stage :=
  ({ r with ended := true }, if r.announced then s.see .streamClosed else s)

def next (r : ScriptedStream) (s : Stage) : Pull Value × ScriptedStream × Stage :=
  if r.ended then (.ended, r, s)
  else
    match r.due, r.items[r.place]? with
    | some e, _ => (.failed e, r.finish s)
    | none, some v => (.item v, { r with place := r.place + 1 }, s)
    | none, none => (.ended, r.finish s)

/-- Gives the stream up; one that has not begun leaves no trace. -/
def close (r : ScriptedStream) (s : Stage) : Except Failure Unit × ScriptedStream × Stage :=
  if r.ended || r.place = 0 then (.ok (), { r with ended := true }, s) else (.ok (), r.finish s)

end ScriptedStream

end HttpContract.Rehearsal
