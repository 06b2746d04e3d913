import HttpContract.Proofs.Loop.Watching

/-!
# Consuming a source through the loop

What a consumer gets that asks an iteration any number of times is what the source itself yields, element
by element, then its end or its failure, then nothing. Each question asks the source once, and one that is
put after the end or a failure does not reach it.
-/

namespace HttpContract

variable {σ τ α ρ : Type}

/-! ## Asking again and again -/

/-- The answers to `n` questions in a row. One that does not come back is the last. -/
def answers (pull : ρ → Pull α × ρ) : Nat → ρ → List (Pull α) × ρ
  | 0, r => ([], r)
  | n + 1, r =>
    match pull r with
    | (.pending, r) => ([.pending], r)
    | (pulled, r) =>
      let (rest, r) := answers pull n r
      (pulled :: rest, r)

section Answers

variable {pull : ρ → Pull α × ρ} {r r' : ρ} {p : Pull α}

theorem answers_succ (n : Nat) (h : pull r = (p, r')) (hp : p ≠ .pending) :
    answers pull (n + 1) r = (p :: (answers pull n r').1, (answers pull n r').2) := by
  cases p with
  | pending => exact absurd rfl hp
  | _ => simp only [answers, h]

theorem answers_of_pending (n : Nat) (h : pull r = (.pending, r')) :
    answers pull (n + 1) r = ([.pending], r') := by
  simp only [answers, h]

theorem answers_of_ended (n : Nat) (h : pull r = (.ended, r)) :
    answers pull n r = (List.replicate n .ended, r) := by
  induction n with
  | zero => rfl
  | succ n ih =>
      rw [answers_succ n h (by simp), ih]
      rfl

end Answers

/-! ## Failures -/

/-- A failure that comes out of a future as it went in. -/
def Failure.HandedOn : Failure → Prop
  | .raised e => e.isA Raised.cancellation = false ∧ e.kind ≠ Raised.poolCancellation ∧
      e.kind ≠ Raised.poolInvalidState ∧ (e.kind = Raised.timeout → e.file = none)
  | _ => True

theorem Raised.handedOver_eq_self_iff (e : Raised) :
    e.handedOver = e ↔ (Failure.raised e).HandedOn := by
  unfold handedOver Failure.HandedOn
  -- the cases in the order in which they are tried; each of the first three gives another kind, or no file
  by_cases hcancelled : e.isA cancellation = true
  · rw [if_pos hcancelled]
    refine iff_of_false (fun he => ?_) (by simp [hcancelled])
    rw [← he] at hcancelled
    exact absurd hcancelled (by decide)
  rw [if_neg hcancelled]
  by_cases hpool : e.kind = poolCancellation
  · have hkind : cancellation ≠ poolCancellation := by decide
    rw [if_pos hpool]
    exact iff_of_false (fun he => hkind ((congrArg kind he).trans hpool)) fun h => h.2.1 hpool
  rw [if_neg hpool]
  by_cases htimeout : e.kind = timeout
  · have hkind : e.kind ≠ poolInvalidState := by
      rw [htimeout]
      decide
    rw [if_pos htimeout]
    constructor
    · intro he
      exact ⟨by simpa using hcancelled, hpool, hkind, fun _ => (congrArg file he).symm⟩
    · intro h
      rw [← h.2.2.2 htimeout]
  rw [if_neg htimeout]
  by_cases hstate : e.kind = poolInvalidState
  · have hkind : invalidState ≠ poolInvalidState := by decide
    rw [if_pos hstate]
    exact iff_of_false (fun he => hkind ((congrArg kind he).trans hstate)) fun h => h.2.2.1 hstate
  · rw [if_neg hstate]
    exact iff_of_true rfl ⟨by simpa using hcancelled, hpool, hstate, fun h => absurd h htimeout⟩

theorem Failure.handedOver_eq_self_iff (e : Failure) : e.handedOver = e ↔ e.HandedOn := by
  cases e with
  | raised e => simp only [handedOver, raised.injEq, Raised.handedOver_eq_self_iff]
  | _ => exact iff_of_true rfl trivial

/-! ## Sources -/

namespace Source

/-- The source gives some elements one after the other, from a state and a world to another. -/
inductive Yields (s : Source σ τ α) : τ → σ → List α → τ → σ → Prop where
  | nil {t : τ} {w : σ} : Yields s t w [] t w
  | cons {t t₁ t₂ : τ} {w w₁ w₂ : σ} {a : α} {as : List α}
      (hnext : s.next t w = (.item a, t₁, w₁)) (hrest : Yields s t₁ w₁ as t₂ w₂) :
      Yields s t w (a :: as) t₂ w₂

/-- The state and the world after the source was closed, if it can be. -/
def closed (s : Source σ τ α) (t : τ) (w : σ) : τ × σ :=
  match s.close with
  | some close => (close t w).2
  | none => (t, w)

/-- The notes of closing. -/
def closingNotes (s : Source σ τ α) : List SourceNote :=
  if s.close.isSome then [.closed] else []

section Watching

variable {s : Source σ τ α} {t t' : τ} {w w' : σ} {p : Pull α}

theorem next_watched (h : s.next t w = (p, t', w')) (notes : List SourceNote) :
    s.watched.next t ⟨w, notes⟩ = (p, t', ⟨w', notes ++ [.asked]⟩) := by
  simp only [watched, h]

theorem closed_watched (s : Source σ τ α) (t : τ) (w : σ) (notes : List SourceNote) :
    s.watched.closed t ⟨w, notes⟩ = ((s.closed t w).1, ⟨(s.closed t w).2, notes ++ s.closingNotes⟩) := by
  cases hclose : s.close with
  | none => simp only [closed, watched, closingNotes, hclose, Option.map_none, Option.isSome_none,
      Bool.false_eq_true, if_false, List.append_nil]
  | some close => simp only [closed, watched, closingNotes, hclose, Option.map_some,
      Option.isSome_some, if_true]

end Watching

end Source

/-! ## One question -/

namespace Iteration

section Steps

variable {s : Source σ τ α} {it : Iteration τ} {c : Context σ} {t : τ} {w : σ} {a : α} {e : Failure}

theorem step_of_finished (hphase : it.phase = .finished) (c : Context σ) :
    step s (it, c) = (.ended, (it, c)) := by
  simp only [step, next, if_pos hphase]

theorem answers_of_finished (n : Nat) (hphase : it.phase = .finished) :
    answers (step s) n (it, c) = (List.replicate n .ended, it, c) :=
  answers_of_ended n (step_of_finished hphase c)

theorem step_of_item (hphase : it.phase ≠ .finished)
    (hnext : s.next it.source c.world = (.item a, t, w)) :
    step s (it, c) = (.item a, (⟨t, .paused⟩, { c.start with world := w })) := by
  simp only [step, next, if_neg hphase, Context.start_world, hnext]

theorem step_of_ended (hphase : it.phase ≠ .finished)
    (hnext : s.next it.source c.world = (.ended, t, w)) :
    step s (it, c) = (.ended, (⟨t, .finished⟩, { c.start with world := w })) := by
  simp only [step, next, if_neg hphase, Context.start_world, hnext]

theorem step_of_pending (hphase : it.phase ≠ .finished)
    (hnext : s.next it.source c.world = (.pending, t, w)) :
    step s (it, c) = (.pending, (⟨t, it.phase⟩, { c.start with world := w })) := by
  simp only [step, next, if_neg hphase, Context.start_world, hnext]

theorem closeSource_of_running (s : Source σ τ α) (t : τ) (hrunning : c.loop.running = true) :
    closeSource s t c = ((s.closed t c.world).1, { c with world := (s.closed t c.world).2 }) := by
  cases hclose : s.close with
  | none => simp only [closeSource, Source.closed, hclose]
  | some close => simp only [closeSource, Source.closed, hclose, if_pos hrunning]

/-- A source that failed is closed: the loop runs, since the source was asked on it. -/
theorem step_of_failed (hphase : it.phase ≠ .finished)
    (hnext : s.next it.source c.world = (.failed e, t, w)) :
    step s (it, c) =
      (.failed e.handedOver,
        (⟨(s.closed t w).1, .finished⟩, { c.start with world := (s.closed t w).2 })) := by
  have hclosing : closeSource s t { c.start with world := w } =
      ((s.closed t w).1, { c.start with world := (s.closed t w).2 }) :=
    closeSource_of_running s t (Context.start_running c)
  simp only [step, next, if_neg hphase, Context.start_world, hnext, hclosing]

end Steps

/-! ## Any number of questions -/

/-- Where an iteration is when its source has come to a state by some elements. -/
def reached (it : Iteration τ) (as : List α) (t : τ) : Iteration τ :=
  ⟨t, if as.isEmpty then it.phase else .paused⟩

/-- What comes of `n` questions: the answers, the iteration and the world after them, and what the source
was asked for. -/
inductive Consumed (s : Source σ τ α) (it : Iteration τ) (w : σ) (n : Nat) :
    List (Pull α) → Iteration τ → σ → List SourceNote → Prop where
  /-- As many elements as questions. -/
  | going {as : List α} {t₁ : τ} {w₁ : σ} (hyields : s.Yields it.source w as t₁ w₁)
      (hn : as.length = n) :
      Consumed s it w n (as.map .item) (it.reached as t₁) w₁ (List.replicate n .asked)
  /-- The source ends; the questions after that do not reach it. -/
  | ended {as : List α} {t₁ t₂ : τ} {w₁ w₂ : σ} {m : Nat} (hyields : s.Yields it.source w as t₁ w₁)
      (hend : s.next t₁ w₁ = (.ended, t₂, w₂)) (hn : as.length + 1 + m = n) :
      Consumed s it w n (as.map .item ++ .ended :: List.replicate m .ended) ⟨t₂, .finished⟩ w₂
        (List.replicate (as.length + 1) .asked)
  /-- The source fails and is closed; its failure comes out of a future, and the questions after that do not
  reach it. -/
  | failed {as : List α} {t₁ t₂ : τ} {w₁ w₂ : σ} {m : Nat} {e : Failure}
      (hyields : s.Yields it.source w as t₁ w₁) (hfail : s.next t₁ w₁ = (.failed e, t₂, w₂))
      (hn : as.length + 1 + m = n) :
      Consumed s it w n (as.map .item ++ .failed e.handedOver :: List.replicate m .ended)
        ⟨(s.closed t₂ w₂).1, .finished⟩ (s.closed t₂ w₂).2
        (List.replicate (as.length + 1) .asked ++ s.closingNotes)
  /-- The source keeps the consumer waiting for good. -/
  | stuck {as : List α} {t₁ t₂ : τ} {w₁ w₂ : σ} (hyields : s.Yields it.source w as t₁ w₁)
      (hstuck : s.next t₁ w₁ = (.pending, t₂, w₂)) (hn : as.length < n) :
      Consumed s it w n (as.map .item ++ [.pending]) (it.reached as t₂) w₂
        (List.replicate (as.length + 1) .asked)

section Consuming

variable {s : Source σ τ α} {it it' : Iteration τ} {w w₁ w' : σ} {t₁ : τ} {a : α} {n : Nat}
  {got : List (Pull α)} {notes : List SourceNote}

theorem reached_cons (it : Iteration τ) (a : α) (as : List α) (t₁ t : τ) :
    (⟨t₁, .paused⟩ : Iteration τ).reached as t = it.reached (a :: as) t := by
  cases as <;> rfl

theorem Consumed.cons (hnext : s.next it.source w = (.item a, t₁, w₁))
    (h : Consumed s ⟨t₁, .paused⟩ w₁ n got it' w' notes) :
    Consumed s it w (n + 1) (.item a :: got) it' w' (.asked :: notes) := by
  cases h with
  | @going as t₂ _ hyields hn =>
      rw [reached_cons it a]
      exact .going (Source.Yields.cons hnext hyields) (by simp [hn])
  | @ended as _ _ _ _ m hyields hend hn =>
      exact .ended (m := m) (Source.Yields.cons hnext hyields) hend (by simp; omega)
  | @failed as _ _ _ _ m e hyields hfail hn =>
      exact .failed (m := m) (Source.Yields.cons hnext hyields) hfail (by simp; omega)
  | @stuck as _ _ _ _ hyields hstuck hn =>
      rw [reached_cons it a]
      exact .stuck (Source.Yields.cons hnext hyields) hstuck (by simp; omega)

/-- What comes of `n` questions to an iteration that is not over, the source watched or not. -/
theorem consumed_of_unfinished (s : Source σ τ α) (n : Nat) (hphase : it.phase ≠ .finished)
    (c : Context σ) (before : List SourceNote) :
    ∃ got it' c' notes, answers (step s) n (it, c) = (got, it', c') ∧
      answers (step s.watched) n (it, c.watched before) = (got, it', c'.watched (before ++ notes)) ∧
      Consumed s it c.world n got it' c'.world notes := by
  -- by the number of questions: an element leaves an iteration that is not over, anything else settles the rest
  induction n generalizing it c before with
  | zero =>
      refine ⟨[], it, c, [], rfl, ?_, .going .nil rfl⟩
      rw [List.append_nil]
      rfl
  | succ n ih =>
      rcases hnext : s.next it.source c.world with ⟨p, t, w⟩
      have hwatched : s.watched.next it.source (c.watched before).world =
          (p, t, ⟨w, before ++ [.asked]⟩) := Source.next_watched hnext before
      cases p with
      | item a =>
          have hpaused : (⟨t, .paused⟩ : Iteration τ).phase ≠ .finished := by simp
          obtain ⟨got, it', c', notes, hplain, hnoted, hconsumed⟩ :=
            ih hpaused { c.start with world := w } (before ++ [.asked])
          refine ⟨.item a :: got, it', c', .asked :: notes, ?_, ?_, hconsumed.cons hnext⟩
          · rw [answers_succ n (step_of_item hphase hnext) (by simp), hplain]
          · rw [answers_succ n (step_of_item hphase hwatched) (by simp), Context.started_watched, hnoted,
              List.append_assoc, List.singleton_append]
      | ended =>
          refine ⟨.ended :: List.replicate n .ended, ⟨t, .finished⟩, { c.start with world := w }, [.asked],
            ?_, ?_, .ended (m := n) .nil hnext (by simp; omega)⟩
          · rw [answers_succ n (step_of_ended hphase hnext) (by simp), answers_of_finished n rfl]
          · rw [answers_succ n (step_of_ended hphase hwatched) (by simp), Context.started_watched,
              answers_of_finished n rfl]
      | failed e =>
          refine ⟨.failed e.handedOver :: List.replicate n .ended, ⟨(s.closed t w).1, .finished⟩,
            { c.start with world := (s.closed t w).2 }, .asked :: s.closingNotes, ?_, ?_,
            .failed (m := n) .nil hnext (by simp; omega)⟩
          · rw [answers_succ n (step_of_failed hphase hnext) (by simp), answers_of_finished n rfl]
          · rw [answers_succ n (step_of_failed hphase hwatched) (by simp), Source.closed_watched,
              Context.started_watched, answers_of_finished n rfl, List.append_assoc]
            rfl
      | pending =>
          refine ⟨[.pending], ⟨t, it.phase⟩, { c.start with world := w }, [.asked],
            answers_of_pending n (step_of_pending hphase hnext), ?_, .stuck .nil hnext (by simp)⟩
          rw [answers_of_pending n (step_of_pending hphase hwatched), Context.started_watched]

end Consuming

/-! ## The whole consumption -/

/-- However often a consumer asks, it gets the elements of the source in their order, then its end or its
failure, then nothing; by then the source was asked once for each element, and once more for the end or the
failure, after which it is left alone. A failure is given as the future of its question hands it over: unless
that makes it anew, it is the failure of the source. -/
theorem consumed_answers (s : Source σ τ α) (t : τ) (c : Context σ) (n : Nat) :
    (∃ got it c' notes, answers (step s) n ({ source := t }, c) = (got, it, c') ∧
      answers (step s.watched) n ({ source := t }, c.watched []) = (got, it, c'.watched notes) ∧
      Consumed s { source := t } c.world n got it c'.world notes) ∧
      ∀ e : Failure, e.handedOver = e ↔ e.HandedOn :=
  ⟨consumed_of_unfinished s n (by simp) c [], Failure.handedOver_eq_self_iff⟩

/-- A source that reports the timeout of a device has a consumer who is not told the device. -/
theorem answers_of_timeout_on_device :
    let e : Raised :=
      { kind := Raised.timeout, text := "[Errno 110] Connection timed out", file := some "/dev/ttyUSB0" }
    let s : Source Unit Unit Value := { next := fun t w => (.failed (.raised e), t, w) }
    ∃ e' it c', answers (step s) 1 ({ source := () }, { world := () }) = ([.failed e'], it, c') ∧
      e'.message = "[Errno 110] Connection timed out" ∧ e'.message ≠ (Failure.raised e).message := by
  refine ⟨_, _, _, rfl, rfl, ?_⟩
  decide

end Iteration

end HttpContract
