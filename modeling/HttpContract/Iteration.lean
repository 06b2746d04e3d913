import HttpContract.Loop

/-!
# Iteration

A source yields elements one at a time and may be closed early. `Iteration` consumes a source through the
background loop: each element is pulled when it is asked for and not before; a source that has ended is
left alone, one that fails or is given up is closed if it can be. A failure comes out of the future of its
element.
-/

namespace HttpContract

/-- What comes of asking for an element. -/
inductive Pull (α : Type) where
  | item (a : α)
  | ended
  | failed (e : Failure)
  | pending
deriving Inhabited

namespace Pull

variable {α β : Type}

def map (f : α → β) : Pull α → Pull β
  | item a => item (f a)
  | ended => ended
  | failed e => failed e
  | pending => pending

/-- The answer as the future of the question gives it. -/
def handedOver : Pull α → Pull α
  | failed e => failed e.handedOver
  | pulled => pulled

end Pull

/-- Elements from a state `τ` in a world `σ`. -/
structure Source (σ τ α : Type) where
  next : τ → σ → Pull α × τ × σ
  /-- Gives the rest up; some sources have no way to. -/
  close : Option (τ → σ → Except Failure Unit × τ × σ) := none

/-! ## Collecting -/

/-- How the collection of elements ends. -/
inductive Ending where
  | exhausted
  /-- As many elements as were asked for. -/
  | stopped
  | failed (e : Failure)
  | pending
deriving Repr, Inhabited

/-- At most `limit` elements, how they ended, and the state then. -/
def collect {ρ α : Type} (pull : ρ → Pull α × ρ) : (limit : Nat) → ρ → List α × Ending × ρ
  | 0, r => ([], .stopped, r)
  | limit + 1, r =>
    match pull r with
    | (.item a, r) =>
      let (rest, ending, r) := collect pull limit r
      (a :: rest, ending, r)
    | (.ended, r) => ([], .exhausted, r)
    | (.failed e, r) => ([], .failed e, r)
    | (.pending, r) => ([], .pending, r)

/-! ## Iterating through the loop -/

inductive Phase where
  /-- No element has been asked for. -/
  | fresh
  | paused
  | finished
deriving Repr, DecidableEq, Inhabited

structure Iteration (τ : Type) where
  source : τ
  phase : Phase := .fresh
deriving Inhabited

namespace Iteration

variable {σ τ α : Type}

/-- Closes the source while the loop runs; what goes wrong then is not reported. -/
def closeSource (s : Source σ τ α) (t : τ) (c : Context σ) : τ × Context σ :=
  match s.close with
  | none => (t, c)
  | some close =>
    if c.loop.running then
      let (_, t, world) := close t c.world
      (t, { c with world })
    else (t, c)

/-- Asks for the next element. -/
def next (s : Source σ τ α) (it : Iteration τ) (c : Context σ) :
    Pull α × Iteration τ × Context σ :=
  if it.phase = .finished then (.ended, it, c)
  else
    let c := c.start
    match s.next it.source c.world with
    | (.item a, t, world) => (.item a, ⟨t, .paused⟩, { c with world })
    | (.ended, t, world) => (.ended, ⟨t, .finished⟩, { c with world })
    | (.failed e, t, world) =>
      let (t, c) := closeSource s t { c with world }
      (.failed e.handedOver, ⟨t, .finished⟩, c)
    | (.pending, t, world) => (.pending, ⟨t, it.phase⟩, { c with world })

/-- Gives the iteration up. -/
def close (s : Source σ τ α) (it : Iteration τ) (c : Context σ) : Iteration τ × Context σ :=
  match it.phase with
  | .paused =>
    let (t, c) := closeSource s it.source c
    (⟨t, .finished⟩, c)
  | _ => ({ it with phase := .finished }, c)

/-- One step of an iteration as a step on both its state and its context. -/
def step (s : Source σ τ α) (r : Iteration τ × Context σ) :
    Pull α × Iteration τ × Context σ :=
  next s r.1 r.2

end Iteration

end HttpContract
