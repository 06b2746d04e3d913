import HttpContract.Rehearsal.Script

/-!
# Scripted work for the loop

Work that yields a value, fails or never ends, and sources that differ in how they can be closed.
-/

namespace HttpContract.Rehearsal

/-! ## Work -/

structure Work where
  value : Value := .null
  fault : Option Failure := none
  hangs : Bool := false
  /-- Awaited on something other than a coroutine. -/
  asObject : Bool := false
deriving Repr, Inhabited

namespace Work

def outcome (w : Work) : Outcome Value :=
  if w.hangs then .pending
  else
    match w.fault with
    | some e => .failed (Carrier.coroutine.released e)
    | none => .done w.value

def awaitable (w : Work) : Awaitable Stage Value where
  isCoroutine := !w.asObject
  await s := (w.outcome, s)
  cancel s := if w.hangs then s.see .cancelled else s
  discard s := s.see .innerClosed

/-- Waits for the work from within the loop. -/
def runNested (w : Work) (c : Context Stage) : Except Failure Value × Context Stage :=
  let (result, c) := c.runInside w.awaitable
  (result, if w.asObject then { c with world := c.world.see .innerOpen } else c)

end Work

/-! ## Sources -/

/-- How a source can be closed. -/
inductive Closing where
  /-- Its end is seen however it comes. -/
  | generator
  | absent
  | records
  | raises
deriving Repr, DecidableEq, Inhabited

/-- A source of a scripted stream. -/
def Closing.source (closing : Closing) : Source Stage ScriptedStream Value where
  next := ScriptedStream.next
  close :=
    match closing with
    | .generator => some ScriptedStream.close
    | .absent => none
    | .records => some fun r s => (.ok (), r, s.see .closeCalled)
    | .raises => some fun r s =>
      (.error (.raised { kind := "RuntimeError", text := "" }), r, s.see .closeCalled)

/-- Pulls elements of a stream through the loop, as many as are asked for. -/
def pullStream (closing : Closing) (stream : ScriptedStream) (take : Option Nat)
    (c : Context Stage) : List Value × Ending × Iteration ScriptedStream × Context Stage :=
  collect (Iteration.step closing.source) (take.getD (stream.items.length + 2))
    ({ source := { stream with announced := closing = .generator } }, c)

/-- Iterates over a stream, as far as is asked, and gives it up then. -/
def iterate (closing : Closing) (stream : ScriptedStream) (take : Option Nat)
    (c : Context Stage) : List Value × Ending × Context Stage :=
  let (items, ending, it, c) := pullStream closing stream take c
  match ending with
  | .stopped => (items, ending, (it.close closing.source c).2)
  | _ => (items, ending, c)

/-- Iterates as far as is asked, stops the loop, and gives the iteration up only then. -/
def iterateAndStop (closing : Closing) (stream : ScriptedStream) (take : Option Nat)
    (c : Context Stage) : List Value × Context Stage :=
  let (items, _, it, c) := pullStream closing stream take c
  (items, (it.close closing.source c.stop).2)

end HttpContract.Rehearsal
