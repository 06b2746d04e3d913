import HttpContract.Execution

/-!
# Watching results

What a caller sees of a result when it consumes it: awaited values, the elements of streams, and those of
streams inside them. Coroutines and asynchronous streams are consumed on a loop of the caller's own,
futures and iterators through the background loop.
-/

namespace HttpContract.Rehearsal

inductive Shown where
  | value (v : Value)
  | headers (items : List (String × String))
  | entity (status : Int) (headers : List (String × String)) (body : Shown)
  | failed (e : Failure)
  | future (inner : Shown)
  | coroutine (inner : Shown)
  | awaitable (inner : Shown)
  /-- Left alone. -/
  | notAwaited
  | asyncIterator (items : List Shown) (ending : Ending)
  | iterator (items : List Shown) (ending : Ending)
  | box (label : String) (inner : Shown)
  /-- Never completes. -/
  | unfinished
deriving Repr, Inhabited

/-- How much of a stream is consumed. -/
structure Demand where
  /-- The elements to take; all of them when absent. -/
  take : Option Nat := none
  /-- More elements than any stream has. -/
  bound : Nat
deriving Repr, Inhabited

def Demand.limit (a : Demand) : Nat := a.take.getD a.bound

section

variable {σ π : Type} (t : Transport σ π) (a : Demand)

/-- Shows replies in order. -/
def showEach (showReply : Reply (Container π) → Context σ → Shown × Context σ) :
    List (Reply (Container π)) → Context σ → List Shown × Context σ
  | [], c => ([], c)
  | r :: rest, c =>
    let (shown, c) := showReply r c
    let (more, c) := showEach showReply rest c
    (shown :: more, c)

def showOutcome (showReply : Reply (Container π) → Context σ → Shown × Context σ)
    (outcome : Outcome (Reply (Container π))) (c : Context σ) : Shown × Context σ :=
  match outcome with
  | .done r => showReply r c
  | .failed e => (.failed e, c)
  | .pending => (.unfinished, c)

/-- Pulls elements on the caller's own loop; a stream that is not at its end is closed. -/
def pullDirectly (p : Publisher π) (c : Context σ) :
    List (Reply (Container π)) × Ending × Context σ :=
  let (items, ending, p, world) :=
    collect (fun (s : Publisher π × σ) => s.1.next t s.2) a.limit (p, c.world)
  let world := match ending with
    | .stopped => (p.close t world).2.2
    | _ => world
  (items, ending, { c with world })

/-- Pulls elements through the background loop. -/
def pullIterating (p : Publisher π) (c : Context σ) :
    List (Reply (Container π)) × Ending × Context σ :=
  let source := Publisher.source t
  let (items, ending, it, c) := collect (Iteration.step source) a.limit ({ source := p }, c)
  let c := match ending with
    | .stopped => (it.close source c).2
    | _ => c
  (items, ending, c)

/-- Shows a publisher as the transport's caller gets it. -/
def showPublisher (showReply : Reply (Container π) → Context σ → Shown × Context σ)
    (p : Publisher π) (c : Context σ) : Shown × Context σ :=
  match p.shape t with
  | .stream =>
    let (items, ending, c) := pullDirectly t a p c
    let (shown, c) := showEach showReply items c
    (.asyncIterator shown ending, c)
  | .single =>
    let wrap := if p.isCoroutine t then Shown.coroutine else .awaitable
    if a.take = some 0 then (wrap .notAwaited, c)
    else
      let (outcome, world) := p.await t c.world
      let (shown, c) := showOutcome showReply outcome { c with world }
      (wrap shown, c)

def showContainer (showReply : Reply (Container π) → Context σ → Shown × Context σ)
    (container : Container π) (c : Context σ) : Shown × Context σ :=
  let p := container.publisher
  match container.conversion with
  | .identity => showPublisher t a showReply p c
  | .box label =>
    let (inner, c) := showPublisher t a showReply p c
    (.box label inner, c)
  | .coroutine =>
    if a.take = some 0 then (.coroutine .notAwaited, c)
    else
      let (outcome, world) := p.await t c.world
      let (shown, c) := showOutcome showReply outcome { c with world }
      (.coroutine shown, c)
  | .future =>
    let (future, c) := c.submit (p.awaitable t)
    let (shown, c) := showOutcome showReply (future.result (.ok .endless)).1 c
    (.future shown, c)
  | .iterator =>
    let (items, ending, c) := pullIterating t a p c
    let (shown, c) := showEach showReply items c
    (.iterator shown ending, c)

/-- Shows a reply with its streams, nested at most `depth` deep. -/
def showReply : (depth : Nat) → Reply (Container π) → Context σ → Shown × Context σ
  | _, .value v, c => (.value v, c)
  | _, .headers h, c => (.headers h.items, c)
  | _, .entity status h (.value v), c => (.entity status h.items (.value v), c)
  | 0, .entity status h (.stream _), c => (.entity status h.items .unfinished, c)
  | depth + 1, .entity status h (.stream container), c =>
    let (body, c) := showContainer t a (showReply depth) container c
    (.entity status h.items body, c)

/-- A call gives a stream of entities with streams at the most. -/
def nesting : Nat := 2

/-- Shows the result of a call. -/
def showResult (result : Except Failure (Result π)) (c : Context σ) : Shown × Context σ :=
  match result with
  | .error e => (.failed e, c)
  | .ok (.reply r) => showReply t a nesting r c
  | .ok (.container container) => showContainer t a (showReply t a nesting) container c

end

end HttpContract.Rehearsal
