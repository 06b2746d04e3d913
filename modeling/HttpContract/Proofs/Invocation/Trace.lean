import HttpContract.Invocation

/-!
# Traces of calls

A traced world remembers, in order, what was asked of the resolvers and of the transport. Tracing changes
neither what a call gives nor the world it leaves, and performing a request asks the transport once.
-/

namespace HttpContract

variable {σ π : Type}

/-- What a call asks of its collaborators. -/
inductive Contact (σ : Type) where
  | offer (o : Offer σ)
  | call (operation : Operation) (told : Option Hint) (request : Request)

/-- A world with what was asked of those who work on it. -/
structure Traced (σ : Type) where
  world : σ
  contacts : List (Contact σ) := []

/-! ## Traced collaborators -/

def Resolver.traced (s : Resolver σ) : Resolver (Traced σ) where
  resolve argument parameter r w :=
    let (answer, r, world) := s.resolve argument parameter r w.world
    (answer, r, ⟨world, w.contacts ++ [.offer ⟨parameter, argument, s⟩]⟩)

/-- Calls of operations are remembered; the publishers work on the world within. -/
def Transport.traced (t : Transport σ π) : Transport (Traced σ) π where
  call operation told r w :=
    let (answer, world) := t.call operation told r w.world
    (answer, ⟨world, w.contacts ++ [.call operation told r]⟩)
  shape := t.shape
  isCoroutine := t.isCoroutine
  await p w :=
    let (outcome, world) := t.await p w.world
    (outcome, ⟨world, w.contacts⟩)
  pace p w := t.pace p w.world
  cancel p w := ⟨t.cancel p w.world, w.contacts⟩
  next p w :=
    let (pulled, p, world) := t.next p w.world
    (pulled, p, ⟨world, w.contacts⟩)
  close p w :=
    let (closed, p, world) := t.close p w.world
    (closed, p, ⟨world, w.contacts⟩)

def Offer.traced (o : Offer σ) : Offer (Traced σ) where
  parameter := o.parameter
  argument := o.argument
  resolver := o.resolver.traced

/-- The same context over a world that remembers. -/
def Context.traced (c : Context σ) (contacts : List (Contact σ)) : Context (Traced σ) where
  world := ⟨c.world, contacts⟩
  loop := c.loop
  log := c.log

/-! ## Contexts -/

namespace Context

variable (c : Context σ) (contacts : List (Contact σ))

theorem start_traced : (c.traced contacts).start = c.start.traced contacts := by
  unfold start
  split
  · rename_i h
    rw [if_pos (show c.loop.running = true from h)]
  · rename_i h
    rw [if_neg (show ¬c.loop.running = true from h)]
    rfl

end Context

/-! ## Publishers -/

namespace Publisher

variable (t : Transport σ π) (contacts : List (Contact σ))

theorem await_traced (p : Publisher π) (w : σ) :
    p.await t.traced ⟨w, contacts⟩ = ((p.await t w).1, ⟨(p.await t w).2, contacts⟩) := by
  induction p with
  | native p =>
      simp only [await, Transport.traced]
      cases t.shape p <;> rfl
  | rewrapped p a ih => simp only [await, ih]
  | lifted p emits => rfl
  | spent => rfl

theorem cancel_traced (p : Publisher π) (w : σ) :
    p.cancel t.traced ⟨w, contacts⟩ = ⟨p.cancel t w, contacts⟩ := by
  induction p with
  | native p => rfl
  | rewrapped p a ih => simp only [cancel, ih]
  | lifted p emits ih => simp only [cancel, ih]
  | spent => rfl

theorem pace_traced (p : Publisher π) (w : σ) : p.pace t.traced ⟨w, contacts⟩ = p.pace t w := by
  induction p with
  | rewrapped p a ih => exact ih
  | _ => rfl

variable (p : Publisher π) (c : Context σ) (limit : Value) (name : String)

theorem submit_traced :
    (c.traced contacts).submit (p.awaitable t.traced) =
      ((c.submit (p.awaitable t)).1, (c.submit (p.awaitable t)).2.traced contacts) := by
  simp only [Context.submit, Context.start_traced, awaitable, Awaitable.future]
  simp only [Context.traced, await_traced, pace_traced]

theorem withdraw_traced (f : Future (Reply (Container π))) (time : Nat) :
    (c.traced contacts).withdraw (p.awaitable t.traced) f time =
      (c.withdraw (p.awaitable t) f time).traced contacts := by
  unfold Context.withdraw
  split
  · rfl
  · simp only [Context.traced, awaitable, cancel_traced]

theorem settle_traced (f : Future (Reply (Container π))) (time : Nat) :
    (c.traced contacts).settle (p.awaitable t.traced) limit name f time =
      ((c.settle (p.awaitable t) limit name f time).1,
        (c.settle (p.awaitable t) limit name f time).2.traced contacts) := by
  unfold Context.settle
  simp only [withdraw_traced]
  split <;> rfl

theorem run_traced :
    (c.traced contacts).run (p.awaitable t.traced) limit name =
      ((c.run (p.awaitable t) limit name).1,
        (c.run (p.awaitable t) limit name).2.traced contacts) := by
  simp only [Context.run, submit_traced]
  rcases (c.submit (p.awaitable t)).1.result (Limit.ofValue limit) with ⟨outcome, time⟩
  cases outcome with
  | failed e =>
      simp only [settle_traced]
      split <;> rfl
  | _ => rfl

end Publisher

/-! ## Performing a request -/

namespace Plan

variable (t : Transport σ π) (p : Plan) (name : String)

theorem await_traced (publisher : Publisher π) (c : Context σ) (contacts : List (Contact σ)) :
    p.await t.traced name publisher (c.traced contacts) =
      ((p.await t name publisher c).1, (p.await t name publisher c).2.traced contacts) := by
  simp only [await, Publisher.run_traced]
  cases c.run (publisher.awaitable t) p.blockTimeout name with
  | mk answer c' =>
      cases answer with
      | ok r => rfl
      | error e =>
          cases he : e.isTimeout with
          | false => simp [he]
          | true =>
              simp only [he, if_true]
              cases p.timeoutRecord? name <;> rfl

theorem handOver_traced (a : Adapter) (publisher : Publisher π) (c : Context σ)
    (contacts : List (Contact σ)) :
    handOver a publisher (c.traced contacts) =
      ((handOver a publisher c).1, (handOver a publisher c).2.traced contacts) := by
  unfold handOver
  split
  · rw [Context.start_traced]
  · rfl

/-- Performing a request asks the transport exactly once, for the operation of the plan. -/
theorem execute_traced (r : Request) (c : Context σ) (contacts : List (Contact σ)) :
    p.execute t.traced name r (c.traced contacts) =
      ((p.execute t name r c).1,
        (p.execute t name r c).2.traced (contacts ++ [.call p.operation p.toldType r])) := by
  simp only [execute, request]
  have hcall : t.traced.call p.operation p.toldType r (c.traced contacts).world =
      ((t.call p.operation p.toldType r c.world).1,
        ⟨(t.call p.operation p.toldType r c.world).2,
          contacts ++ [.call p.operation p.toldType r]⟩) := rfl
  rw [hcall]
  cases t.call p.operation p.toldType r c.world with
  | mk answer w =>
      cases answer with
      | error e => rfl
      | ok native =>
          have hcontext : ({ c.traced contacts with
                world := ⟨w, contacts ++ [.call p.operation p.toldType r]⟩ } : Context (Traced σ)) =
              ({ c with world := w } : Context σ).traced
                (contacts ++ [.call p.operation p.toldType r]) := rfl
          simp only [hcontext]
          cases p.returnAdapter with
          | some a => simp only [handOver_traced]
          | none =>
              simp only [await_traced]
              cases p.await t name (p.wrap native) { c with world := w } with
              | mk answer c' => cases answer <;> rfl

end Plan

end HttpContract
