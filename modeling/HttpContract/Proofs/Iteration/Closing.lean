import HttpContract.Proofs.Iteration.Consumption
import HttpContract.Rehearsal.Workload

/-!
# Closing a source that is given up

A consumer may give an iteration up after any number of questions. Its source is closed at most once: when
it fails, or when it is given up between two elements while the loop runs. One that has ended is not closed,
and neither is one that no element was asked of.
-/

namespace HttpContract.Iteration

variable {σ τ α : Type}

/-! ## Giving up -/

/-- Whatever becomes of the loop, the source is not reached any more. -/
def Sealed (s : Source σ τ α) (it : Iteration τ) : Prop :=
  ∀ c : Context σ, next s it c = (.ended, it, c) ∧ close s it c = (it, c)

section Giving

variable {s : Source σ τ α} {it : Iteration τ}

theorem close_of_finished (hphase : it.phase = .finished) (c : Context σ) : close s it c = (it, c) := by
  cases it with
  | mk t phase =>
      cases hphase
      rfl

theorem sealed_of_finished (hphase : it.phase = .finished) : Sealed s it :=
  fun c => ⟨if_pos hphase, close_of_finished hphase c⟩

theorem close_finishes (s : Source σ τ α) (it : Iteration τ) (c : Context σ) :
    (close s it c).1.phase = .finished := by
  unfold close
  split <;> rfl

theorem close_of_fresh (hphase : it.phase = .fresh) (c : Context σ) :
    close s it c = (⟨it.source, .finished⟩, c) := by
  simp only [close, hphase]

theorem closeSource_of_stopped {c : Context σ} (s : Source σ τ α) (t : τ)
    (hstopped : c.loop.running = false) : closeSource s t c = (t, c) := by
  cases hclose : s.close with
  | none => simp only [closeSource, hclose]
  | some close => simp only [closeSource, hclose, hstopped, Bool.false_eq_true, if_false]

theorem notes_close_of_paused (s : Source σ τ α) (hphase : it.phase = .paused) (c : Context σ)
    (notes : List SourceNote) :
    (close s.watched it (c.watched notes)).2.world.notes =
      notes ++ if c.loop.running = true then s.closingNotes else [] := by
  simp only [close, hphase]
  cases hrunning : c.loop.running with
  | false =>
      rw [closeSource_of_stopped (c := c.watched notes) s.watched it.source hrunning]
      simp
  | true =>
      rw [closeSource_of_running (c := c.watched notes) s.watched it.source hrunning,
        Context.watched_world, Source.closed_watched]
      simp

end Giving

/-! ## Counting -/

/-- The notes tell of one closing at the most, and of one exactly if the source can be closed and has to
be. -/
def ClosedOnceIff (s : Source σ τ α) (notes : List SourceNote) (due : Prop) : Prop :=
  notes.count .closed ≤ 1 ∧ (notes.count .closed = 1 ↔ s.close.isSome = true ∧ due)

section Counting

variable {s : Source σ τ α} {due : Prop}

theorem count_closed_asked (k : Nat) : (List.replicate k SourceNote.asked).count .closed = 0 := by
  rw [List.count_replicate, if_neg (by decide)]

theorem closedOnceIff_asked (k : Nat) (hdue : ¬due) :
    ClosedOnceIff s (List.replicate k .asked) due := by
  simp [ClosedOnceIff, count_closed_asked, hdue]

theorem closedOnceIff_closing (k : Nat) (hdue : due) :
    ClosedOnceIff s (List.replicate k .asked ++ s.closingNotes) due := by
  have hcount : (List.replicate k SourceNote.asked ++ s.closingNotes).count .closed =
      if s.close.isSome = true then 1 else 0 := by
    rw [List.count_append, count_closed_asked, Nat.zero_add]
    unfold Source.closingNotes
    split <;> rfl
  unfold ClosedOnceIff
  rw [hcount]
  cases s.close.isSome <;> simp [hdue]

end Counting

/-! ## When a source is closed -/

/-- What a consumer got, and whether the loop runs when it gives up: the cases in which the source is
closed. -/
inductive Closes (got : List (Pull α)) (running : Bool) : Prop where
  | failed {e : Failure} (hfailed : .failed e ∈ got)
  | between (hasked : got ≠ []) (hgoing : ∀ p ∈ got, ∃ a, p = .item a) (hrunning : running = true)

section Cases

variable {as : List α} {m : Nat} {running : Bool}

theorem closes_items_iff : Closes (as.map Pull.item) running ↔ as ≠ [] ∧ running = true := by
  constructor
  · rintro (hfailed | ⟨hasked, -, hrunning⟩)
    · simp at hfailed
    · exact ⟨fun has => hasked (by rw [has]; rfl), hrunning⟩
  · rintro ⟨has, hrunning⟩
    exact .between (by simpa using has) (by simp) hrunning

theorem not_closes_of_ended :
    ¬Closes (as.map Pull.item ++ .ended :: List.replicate m .ended) running := by
  rintro (hfailed | ⟨-, hgoing, -⟩)
  · simp at hfailed
  · obtain ⟨a, ha⟩ := hgoing .ended (by simp)
    cases ha

end Cases

theorem closedOnceIff_close_reached (s : Source σ τ α) (t : τ) (as : List α) (t₁ : τ) (n : Nat)
    (c : Context σ) :
    ClosedOnceIff s
      (close s.watched (reached { source := t } as t₁)
        (c.watched (List.replicate n .asked))).2.world.notes
      (as ≠ [] ∧ c.loop.running = true) := by
  by_cases has : as = []
  · subst has
    rw [close_of_fresh rfl]
    exact closedOnceIff_asked n (by simp)
  · have hpaused : (reached { source := t } as t₁).phase = .paused := if_neg (by simpa using has)
    rw [notes_close_of_paused s hpaused]
    cases hrunning : c.loop.running with
    | false =>
        rw [if_neg (by simp), List.append_nil]
        exact closedOnceIff_asked n (by simp)
    | true =>
        rw [if_pos rfl]
        exact closedOnceIff_closing n ⟨has, rfl⟩

/-- The source of an iteration is closed at most once: when it fails, before the failure is reported, or
when it is given up after an element and the loop runs. One that ended is not closed, nor one that was never
asked, and after it was given up nothing reaches the source. -/
theorem closed_once_iff (s : Source σ τ α) (t : τ) (c : Context σ) (n : Nat)
    (hback : .pending ∉ (answers (step s) n ({ source := t }, c)).1) :
    let asked := answers (step s.watched) n ({ source := t }, c.watched [])
    let notes := asked.2.2.world.notes
    asked.1 = (answers (step s) n ({ source := t }, c)).1 ∧
      ClosedOnceIff s notes (∃ e, .failed e ∈ asked.1) ∧
      ∀ c₂ : Context σ,
        let given := close s.watched asked.2.1 (c₂.watched notes)
        Sealed s.watched given.1 ∧
          ClosedOnceIff s given.2.world.notes (Closes asked.1 c₂.loop.running) := by
  obtain ⟨got, it, c₁, notes, hplain, hwatched, hconsumed⟩ :=
    consumed_of_unfinished s n (show ({ source := t } : Iteration τ).phase ≠ .finished by simp) c []
  rw [hplain] at hback ⊢
  rw [hwatched]
  refine ⟨rfl, ?_⟩
  simp only [Context.watched_world]
  -- what was noted by the time of giving up, and what giving up adds
  have hsealed (c₂ : Context σ) : Sealed s.watched (close s.watched it (c₂.watched notes)).1 :=
    sealed_of_finished (close_finishes s.watched it _)
  generalize c₁.world = w₁ at hconsumed
  cases hconsumed with
  | @going as t₁ _ hyields hn =>
      refine ⟨closedOnceIff_asked n (by simp), fun c₂ => ⟨hsealed c₂, ?_⟩⟩
      rw [closes_items_iff]
      exact closedOnceIff_close_reached s t as t₁ n c₂
  | @ended as _ _ _ _ m hyields hend hn =>
      refine ⟨closedOnceIff_asked _ (by simp), fun c₂ => ⟨hsealed c₂, ?_⟩⟩
      rw [close_of_finished rfl]
      exact closedOnceIff_asked _ not_closes_of_ended
  | @failed as _ _ _ _ m e hyields hfail hn =>
      have hfailed : Pull.failed e.handedOver ∈
          as.map .item ++ .failed e.handedOver :: List.replicate m .ended := by simp
      refine ⟨closedOnceIff_closing _ ⟨e.handedOver, hfailed⟩, fun c₂ => ⟨hsealed c₂, ?_⟩⟩
      rw [close_of_finished rfl]
      exact closedOnceIff_closing _ (.failed hfailed)
  | stuck => exact absurd (by simp) hback

/-- A source given up after two of its elements was closed once. -/
theorem closed_once_iff_two_elements :
    let s := Rehearsal.Closing.records.source
    let stream : Rehearsal.ScriptedStream := { items := [.int 1, .int 2, .int 3] }
    let c : Context Rehearsal.Stage := { world := {} }
    let asked := answers (step s.watched) 2 ({ source := stream }, c.watched [])
    let given := close s.watched asked.2.1 (c.start.watched asked.2.2.world.notes)
    .pending ∉ (answers (step s) 2 ({ source := stream }, c)).1 ∧
      given.2.world.notes.count .closed = 1 := by
  intro s stream c asked given
  have hanswers : (answers (step s) 2 ({ source := stream }, c)).1 =
      [.item (.int 1), .item (.int 2)] := by rfl
  have hback : .pending ∉ (answers (step s) 2 ({ source := stream }, c)).1 := by
    rw [hanswers]
    simp
  obtain ⟨hgot, -, hgiven⟩ := closed_once_iff s stream c 2 hback
  have hcloses : Closes asked.1 c.start.loop.running := by
    rw [show asked.1 = _ from hgot, hanswers]
    exact .between (by simp) (by simp) (Context.start_running c)
  exact ⟨hback, (hgiven c.start).2.2.mpr ⟨rfl, hcloses⟩⟩

/-- A source that can be closed stays open when its iteration is given up before the first element, though
the loop runs. -/
theorem never_closed_when_unasked :
    let s := Rehearsal.Closing.records.source
    let stream : Rehearsal.ScriptedStream := { items := [.int 1, .int 2] }
    let c : Context Rehearsal.Stage := { world := {}, loop := { running := true } }
    let given := close s.watched { source := stream } (c.watched [])
    s.close.isSome = true ∧ c.loop.running = true ∧ given.2.world.notes.count .closed ≠ 1 := by
  refine ⟨rfl, rfl, ?_⟩
  decide

end HttpContract.Iteration
