import HttpContract.Publisher

/-!
# Watched worlds

A watched world keeps notes, in order, of what is asked of those who work on it: of awaited work, of a
source, or of the publishers of a transport. Nothing else about them changes.
-/

namespace HttpContract

variable {ε σ σ' τ α π : Type}

/-- A world with the notes that were taken on it. -/
structure Watched (ε σ : Type) where
  world : σ
  notes : List ε := []

namespace Context

/-- The same context over another world. -/
def mapWorld (f : σ → σ') (c : Context σ) : Context σ' where
  world := f c.world
  loop := c.loop
  log := c.log

def watched (c : Context σ) (notes : List ε) : Context (Watched ε σ) := c.mapWorld fun w => ⟨w, notes⟩

@[simp] theorem watched_world (c : Context σ) (notes : List ε) :
    (c.watched notes).world = ⟨c.world, notes⟩ := rfl

theorem start_mapWorld (f : σ → σ') (c : Context σ) : (c.mapWorld f).start = c.start.mapWorld f := by
  unfold start
  split
  · rename_i hrunning
    rw [if_pos (show c.loop.running = true from hrunning)]
  · rename_i hrunning
    rw [if_neg (show ¬c.loop.running = true from hrunning)]
    rfl

theorem start_watched (c : Context σ) (notes : List ε) :
    (c.watched notes).start = c.start.watched notes :=
  start_mapWorld _ c

theorem started_watched (c : Context σ) (before notes : List ε) (w : σ) :
    ({ (c.watched before).start with world := ⟨w, notes⟩ } : Context (Watched ε σ)) =
      ({ c.start with world := w } : Context σ).watched notes := by
  rw [start_watched]
  rfl

end Context

/-! ## Work -/

/-- What is asked of work. -/
inductive WorkNote where
  | awaited
  | cancelled
deriving DecidableEq

def Awaitable.watched (work : Awaitable σ α) : Awaitable (Watched WorkNote σ) α where
  isCoroutine := work.isCoroutine
  await w :=
    let (outcome, world) := work.await w.world
    (outcome, ⟨world, w.notes ++ [.awaited]⟩)
  pace w := work.pace w.world
  cancel w := ⟨work.cancel w.world, w.notes ++ [.cancelled]⟩
  discard w := ⟨work.discard w.world, w.notes⟩

/-! ## Sources -/

/-- What is asked of a source. -/
inductive SourceNote where
  | asked
  | closed
deriving DecidableEq

def Source.watched (s : Source σ τ α) : Source (Watched SourceNote σ) τ α where
  next t w :=
    let (pulled, t, world) := s.next t w.world
    (pulled, t, ⟨world, w.notes ++ [.asked]⟩)
  close := s.close.map fun close t w =>
    let (result, t, world) := close t w.world
    (result, t, ⟨world, w.notes ++ [.closed]⟩)

/-! ## Transports -/

/-- The notes are the publishers that are awaited. -/
def Transport.watched (t : Transport σ π) : Transport (Watched π σ) π where
  call operation told r w :=
    let (answer, world) := t.call operation told r w.world
    (answer, ⟨world, w.notes⟩)
  shape := t.shape
  isCoroutine := t.isCoroutine
  await p w :=
    let (outcome, world) := t.await p w.world
    (outcome, ⟨world, w.notes ++ [p]⟩)
  pace p w := t.pace p w.world
  cancel p w := ⟨t.cancel p w.world, w.notes⟩
  next p w :=
    let (pulled, p, world) := t.next p w.world
    (pulled, p, ⟨world, w.notes⟩)
  close p w :=
    let (closed, p, world) := t.close p w.world
    (closed, p, ⟨world, w.notes⟩)

end HttpContract
