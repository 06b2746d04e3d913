import HttpContract.Failure
import HttpContract.Log

/-!
# The background loop

Calls that wait, futures and synchronous iteration share one background loop. It is started when it is
first needed, stays running until it is closed, and starts again on the next use. Work that is handed to
the loop has a future, and who waits for the work asks the future for the result. When neither a value nor
a failure comes in time, the wait ends with a timeout and the work is asked to stop.
-/

namespace HttpContract

structure Loop where
  name : String := "http-interface-loop"
  running : Bool := false
deriving Repr, DecidableEq, Inhabited

/-- What calls work in: the world of the collaborators, the background loop and the records so far. -/
structure Context (σ : Type) where
  world : σ
  loop : Loop := {}
  log : List LogRecord := []
deriving Inhabited

/-! ## Work -/

/-- What comes of work in the end. -/
inductive Outcome (α : Type) where
  | done (a : α)
  | failed (e : Failure)
  /-- The work never finishes. -/
  | pending
deriving Inhabited

namespace Outcome

variable {α β : Type}

def map (f : α → β) : Outcome α → Outcome β
  | done a => done (f a)
  | failed e => failed e
  | pending => pending

/-- The outcome as the future of the work gives it. -/
def handedOver : Outcome α → Outcome α
  | failed e => failed e.handedOver
  | outcome => outcome

def isPending : Outcome α → Bool
  | pending => true
  | _ => false

/-- What a caller gets that is given the outcome. -/
def toExcept : Outcome α → Except Failure α
  | done a => .ok a
  | failed e => .error e
  | pending => .error .unending

end Outcome

/-- How fast the loop and the thread that waits for it are, in nanoseconds. -/
structure Pace where
  /-- From the time when the work is handed over until it is finished, if it ever is. -/
  finish : Nat := 1
  /-- Until the waiting thread looks at the work first. -/
  look : Nat := 0
  /-- From the end of its time until it wakes up. -/
  wake : Nat := 0
  /-- From then until it looks at the work again. -/
  check : Nat := 0
  /-- From then until it asks the work to stop. -/
  cancel : Nat := 0
deriving Repr, DecidableEq, Inhabited

/-- Work on a world that yields at most one value. -/
structure Awaitable (σ α : Type) where
  /-- A coroutine can be discarded before it has begun. -/
  isCoroutine : Bool := true
  await : σ → Outcome α × σ
  pace : σ → Pace := fun _ => {}
  /-- Asks the work to stop. -/
  cancel : σ → σ := id
  discard : σ → σ := id

/-! ## Futures -/

/-- Work that was handed to the loop, as other threads see it. -/
structure Future (α : Type) where
  outcome : Outcome α
  pace : Pace
deriving Inhabited

/-- The future of work that is handed over in a world. -/
def Awaitable.future {σ α : Type} (work : Awaitable σ α) (w : σ) : Future α where
  outcome := (work.await w).1.handedOver
  pace := work.pace w

namespace Future

variable {α : Type}

/-- What the future holds at a time after the work was handed over. -/
def state (f : Future α) (time : Nat) : Outcome α :=
  if f.pace.finish ≤ time then f.outcome else .pending

def isDone (f : Future α) (time : Nat) : Bool := !(f.state time).isPending

/-- Asks for the result, with a limit to the wait for it: what is given, and when. A wait that is over is
reported by an error, just as the failure of the work is. -/
def result (limit : Except Limit.Error Limit) (f : Future α) : Outcome α × Nat :=
  match f.state f.pace.look, limit with
  | .pending, .error e => (.failed (.unusableLimit e), f.pace.look)
  | .pending, .ok .endless => (f.outcome, f.pace.look + f.pace.finish)
  | .pending, .ok (.within time) =>
    let woken := f.pace.look + time + f.pace.wake
    match f.state woken with
    | .pending => (.failed .expired, woken)
    | finished => (finished, woken)
  | finished, _ => (finished, f.pace.look)

end Future

/-! ## The life of the loop -/

namespace Context

variable {σ α : Type}

def note (r : LogRecord) (c : Context σ) : Context σ := { c with log := c.log ++ [r] }

/-- The loop runs from here on. -/
def start (c : Context σ) : Context σ :=
  if c.loop.running then c
  else
    { c with loop := { c.loop with running := true } }.note
      { logger := .loop, text := "Event loop started: " ++ c.loop.name }

/-- Stops the loop if it runs. -/
def stop (c : Context σ) : Context σ :=
  if c.loop.running then
    { c with loop := { c.loop with running := false } }.note
      { logger := .loop, text := "Event loop stopped: " ++ c.loop.name }
  else c

/-! ## Waiting -/

/-- Hands work to the loop. -/
def submit (work : Awaitable σ α) (c : Context σ) : Future α × Context σ :=
  let c := c.start
  (work.future c.world, { c with world := (work.await c.world).2 })

/-- Asks work to stop; what is finished stays as it is. -/
def withdraw (work : Awaitable σ α) (f : Future α) (time : Nat) (c : Context σ) : Context σ :=
  if f.isDone time then c else { c with world := work.cancel c.world }

/-- What a wait gives that ended by something late at the given time: the wait itself may be over, or the
work reports that something in it was late. The work is looked at again: it may have finished meanwhile. -/
def settle (work : Awaitable σ α) (limit : Value) (name : String) (f : Future α) (time : Nat)
    (c : Context σ) : Except Failure α × Context σ :=
  let checked := time + f.pace.check
  if f.isDone checked then ((f.result (.ok .endless)).1.toExcept, c)
  else (.error (.timeout name limit), c.withdraw work f (checked + f.pace.cancel))

/-- Waits for work on the loop, at most as long as the limit. Work whose limit cannot be waited for goes
on without anyone waiting. -/
def run (work : Awaitable σ α) (limit : Value) (name : String) (c : Context σ) :
    Except Failure α × Context σ :=
  let (f, c) := c.submit work
  match f.result (Limit.ofValue limit) with
  | (.failed e, time) => if e.isLate then c.settle work limit name f time else (.error e, c)
  | (outcome, _) => (outcome.toExcept, c)

/-- Waiting from within the loop would never end; the work is refused, and discarded if it can be. -/
def runInside (work : Awaitable σ α) (c : Context σ) : Except Failure α × Context σ :=
  let c := c.start
  (.error .blockedOnLoop,
    if work.isCoroutine then { c with world := work.discard c.world } else c)

/-! ## Starting and stopping -/

@[simp] theorem start_running (c : Context σ) : c.start.loop.running = true := by
  unfold start
  split
  · assumption
  · rfl

@[simp] theorem stop_running (c : Context σ) : c.stop.loop.running = false := by
  unfold stop
  split
  · rfl
  · simpa using ‹¬ c.loop.running = true›

@[simp] theorem start_world (c : Context σ) : c.start.world = c.world := by
  unfold start; split <;> rfl

@[simp] theorem stop_world (c : Context σ) : c.stop.world = c.world := by
  unfold stop; split <;> rfl

end Context

end HttpContract
