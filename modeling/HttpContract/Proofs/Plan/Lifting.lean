import HttpContract.Proofs.Iteration.Closing
import HttpContract.Proofs.Plan.ShapeSafety

/-!
# Lifting a single reply into a stream

Where several values are wanted of an operation with a single reply, the stream that is handed over has the
reply for its only element, or none for an operation without a result. The reply is awaited when the stream
is asked first, and never again.
-/

namespace HttpContract

variable {σ π α : Type}

/-! ## Streams of one outcome -/

/-- A failure that a stream cannot report as it is, since it would end an iteration. -/
def Failure.EndsIteration : Failure → Prop
  | .raised e => ∃ kind ∈ Carrier.stream.reserved, e.isA kind = true
  | _ => False

theorem Carrier.released_of_not_endsIteration {e : Failure} (h : ¬e.EndsIteration) :
    Carrier.stream.released e = e := by
  cases e with
  | raised e =>
      have hfind : Carrier.stream.reserved.find? e.isA = none := by
        rw [List.find?_eq_none]
        exact fun kind hkind hisA => h ⟨kind, hkind, hisA⟩
      simp only [released, hfind]
  | _ => rfl

namespace Outcome

/-- What the first question to the stream of an outcome gives. -/
def pulled (emits : Bool) : Outcome α → Pull α
  | done a => if emits then .item a else .ended
  | failed e => .failed (Carrier.stream.released e)
  | pending => .pending

/-- What `n` questions in a row give. -/
def pulls (emits : Bool) (outcome : Outcome α) : Nat → List (Pull α)
  | 0 => []
  | n + 1 =>
    match outcome with
    | pending => [.pending]
    | _ => outcome.pulled emits :: List.replicate n .ended

theorem pulled_ne_pending {emits : Bool} {outcome : Outcome α} (h : outcome ≠ pending) :
    outcome.pulled emits ≠ .pending := by
  cases outcome with
  | done a => cases emits <;> simp [pulled]
  | failed e => simp [pulled]
  | pending => exact absurd rfl h

theorem pulls_succ {emits : Bool} {outcome : Outcome α} (h : outcome ≠ pending) (n : Nat) :
    outcome.pulls emits (n + 1) = outcome.pulled emits :: List.replicate n .ended := by
  cases outcome with
  | pending => exact absurd rfl h
  | _ => rfl

theorem handedOver_pulled_ne_pending {emits : Bool} {outcome : Outcome α} (h : outcome ≠ pending) :
    (outcome.pulled emits).handedOver ≠ .pending := by
  cases outcome with
  | done a => cases emits <;> simp [pulled, Pull.handedOver]
  | failed e => simp [pulled, Pull.handedOver]
  | pending => exact absurd rfl h

theorem handedOver_pulls_succ {emits : Bool} {outcome : Outcome α} (h : outcome ≠ pending) (n : Nat) :
    (outcome.pulls emits (n + 1)).map Pull.handedOver =
      (outcome.pulled emits).handedOver :: List.replicate n .ended := by
  rw [pulls_succ h, List.map_cons, List.map_replicate]
  rfl

theorem pulls_of_failed (emits : Bool) {e : Failure} (h : ¬e.EndsIteration) (n : Nat) :
    (failed e : Outcome α).pulls emits (n + 1) = .failed e :: List.replicate n .ended := by
  simp only [pulls, pulled, Carrier.released_of_not_endsIteration h]

end Outcome

/-! ## Lifted publishers -/

namespace Publisher

variable {t : Transport σ π}

/-- A stream of a single reply, asked or not. -/
inductive Lifted : Publisher π → Prop where
  | unasked (p : Publisher π) (emits : Bool) : Lifted (lifted p emits)
  | spent : Lifted spent

theorem Lifted.close_eq {q : Publisher π} (hq : q.Lifted) (t : Transport σ π) (w : σ) :
    q.close t w = (.ok (), .spent, w) := by
  cases hq <;> rfl

/-- The first question to a lifted publisher awaits the reply under it. -/
theorem next_lifted {p : Publisher π} {w w' : σ} {outcome : Outcome (Reply (Container π))}
    (emits : Bool) (hawait : p.await t w = (outcome, w')) :
    ∃ q : Publisher π, (lifted p emits).next t w = (outcome.pulled emits, q, w') ∧ q.Lifted ∧
      (outcome ≠ .pending → q = .spent) := by
  simp only [next, hawait]
  cases outcome with
  | done r => exact ⟨.spent, by cases emits <;> rfl, .spent, fun _ => rfl⟩
  | failed e => exact ⟨.spent, rfl, .spent, fun _ => rfl⟩
  | pending => exact ⟨.lifted p emits, rfl, .unasked p emits, fun h => absurd rfl h⟩

/-! ### A consumer with a loop of its own -/

/-- One question of such a consumer. -/
def pull (t : Transport σ π) (r : Publisher π × σ) : Pull (Reply (Container π)) × Publisher π × σ :=
  r.1.next t r.2

theorem answers_pull_spent (t : Transport σ π) (n : Nat) (w : σ) :
    answers (pull t) n (.spent, w) = (List.replicate n .ended, .spent, w) :=
  answers_of_ended n rfl

section Asking

variable {p : Publisher π} {emits : Bool} {w' : σ} {outcome : Outcome (Reply (Container π))}

theorem answers_pull_lifted {w : σ} (hawait : p.await t w = (outcome, w')) (n : Nat) :
    ∃ q : Publisher π, answers (pull t) (n + 1) (lifted p emits, w) =
      (outcome.pulls emits (n + 1), q, w') ∧ q.Lifted := by
  obtain ⟨q, hnext, hq, hspent⟩ := next_lifted emits hawait
  have hpull : pull t (lifted p emits, w) = (outcome.pulled emits, q, w') := hnext
  by_cases hpending : outcome = .pending
  · subst hpending
    exact ⟨q, answers_of_pending n hpull, hq⟩
  · rw [answers_succ n hpull (Outcome.pulled_ne_pending hpending), Outcome.pulls_succ hpending,
      hspent hpending, answers_pull_spent]
    exact ⟨.spent, rfl, .spent⟩

/-! ### A consumer that iterates through the loop -/

theorem step_lifted {c : Context σ} (emits : Bool) (hawait : p.await t c.world = (outcome, w')) :
    ∃ q phase, Iteration.step (source t) ({ source := lifted p emits }, c) =
        ((outcome.pulled emits).handedOver, (⟨q, phase⟩, { c.start with world := w' })) ∧ q.Lifted ∧
      (outcome ≠ .pending → q = .spent) := by
  obtain ⟨q, hnext, hq, hspent⟩ := next_lifted emits hawait
  have hsource : (source t).next (lifted p emits) c.world = (outcome.pulled emits, q, w') := hnext
  have hfresh : ({ source := lifted p emits } : Iteration (Publisher π)).phase ≠ .finished := by simp
  cases outcome with
  | done r =>
      cases emits with
      | true => exact ⟨q, _, Iteration.step_of_item hfresh hsource, hq, hspent⟩
      | false => exact ⟨q, _, Iteration.step_of_ended hfresh hsource, hq, hspent⟩
  | failed e =>
      -- the failed stream is closed, which changes nothing
      have hclosed : (source t).closed q w' = (.spent, w') := congrArg Prod.snd (hq.close_eq t w')
      have hstep := Iteration.step_of_failed hfresh hsource
      rw [hclosed] at hstep
      exact ⟨.spent, _, hstep, .spent, fun _ => rfl⟩
  | pending => exact ⟨q, _, Iteration.step_of_pending hfresh hsource, hq, hspent⟩

theorem answers_step_spent (t : Transport σ π) (phase : Phase) (c : Context σ) (n : Nat) :
    ∃ phase' c', answers (Iteration.step (source t)) n (⟨.spent, phase⟩, c) =
        (List.replicate n .ended, ⟨.spent, phase'⟩, c') ∧ c'.world = c.world := by
  cases n with
  | zero => exact ⟨phase, c, rfl, rfl⟩
  | succ n =>
      by_cases hphase : phase = .finished
      · exact ⟨phase, c, Iteration.answers_of_finished _ hphase, rfl⟩
      · have hnext : (source t).next .spent c.world = (.ended, .spent, c.world) := rfl
        refine ⟨.finished, { c.start with world := c.world }, ?_, rfl⟩
        rw [answers_succ n (Iteration.step_of_ended hphase hnext) (by simp),
          Iteration.answers_of_finished n rfl]
        rfl

theorem answers_step_lifted {c : Context σ} (hawait : p.await t c.world = (outcome, w')) (n : Nat) :
    ∃ it c', answers (Iteration.step (source t)) (n + 1) ({ source := lifted p emits }, c) =
        ((outcome.pulls emits (n + 1)).map .handedOver, it, c') ∧ it.source.Lifted ∧ c'.world = w' := by
  obtain ⟨q, phase, hstep, hq, hspent⟩ := step_lifted emits hawait
  by_cases hpending : outcome = .pending
  · subst hpending
    exact ⟨_, _, answers_of_pending n hstep, hq, rfl⟩
  · obtain rfl := hspent hpending
    obtain ⟨phase', c', hrest, hworld⟩ :=
      answers_step_spent t phase { c.start with world := w' } n
    rw [answers_succ n hstep (Outcome.handedOver_pulled_ne_pending hpending),
      Outcome.handedOver_pulls_succ hpending, hrest]
    exact ⟨_, c', rfl, .spent, hworld⟩

end Asking

theorem Lifted.iteration_close {it : Iteration (Publisher π)} (hq : it.source.Lifted)
    (t : Transport σ π) (c : Context σ) : (it.close (source t) c).2 = c := by
  cases hphase : it.phase with
  | fresh => rw [Iteration.close_of_fresh hphase]
  | finished => rw [Iteration.close_of_finished hphase]
  | paused =>
      simp only [Iteration.close, hphase]
      cases hrunning : c.loop.running with
      | false => rw [Iteration.closeSource_of_stopped _ _ hrunning]
      | true =>
          have hclosed : (source t).closed it.source c.world = (.spent, c.world) :=
            congrArg Prod.snd (hq.close_eq t c.world)
          rw [Iteration.closeSource_of_running _ _ hrunning, hclosed]

end Publisher

/-! ## Lifting by a plan -/

namespace Plan

variable {t : Transport σ π} {p : Plan} {native : π}

theorem await_rewrap_watched (p : Plan) (hshape : t.shape native = .single) (w : σ)
    (notes : List π) :
    (p.rewrap native).await t.watched ⟨w, notes⟩ =
      ((t.await native w).1.map p.delivered, ⟨(t.await native w).2, notes ++ [native]⟩) :=
  p.await_rewrap (t := t.watched) hshape ⟨w, notes⟩

/-- The world after `n` questions to a stream of a single reply, which is awaited once if it is asked at
all. -/
def awaitedFor (t : Transport σ π) (native : π) (w : σ) : Nat → Watched π σ
  | 0 => ⟨w, []⟩
  | _ + 1 => ⟨(t.await native w).2, [native]⟩

/-- A stream has the single reply of a publisher, as the plan delivers it, for its only element, whenever it
is asked and however often before it is given up. -/
structure LiftsReply (t : Transport σ π) (p : Plan) (native : π) (q : Publisher π) : Prop where
  /-- Asked by a consumer with a loop of its own. -/
  asked : ∀ (w : σ) (n : Nat), ∃ q',
    answers (Publisher.pull t.watched) n (q, ⟨w, []⟩) =
        (((t.await native w).1.map p.delivered).pulls (p.operation != .void) n, q',
          awaitedFor t native w n) ∧
      ∀ w' m, q'.close t.watched w' = (.ok (), .spent, w') ∧
        answers (Publisher.pull t.watched) m (.spent, w') = (List.replicate m .ended, .spent, w')
  /-- Iterated over through the loop, where a failure comes out of a future. -/
  iterated : ∀ (c : Context σ) (n : Nat), ∃ it c',
    answers (Iteration.step (Publisher.source t.watched)) n ({ source := q }, c.watched []) =
        ((((t.await native c.world).1.map p.delivered).pulls (p.operation != .void) n).map .handedOver,
          it, c') ∧
      c'.world = awaitedFor t native c.world n ∧
      ∀ c₂, (it.close (Publisher.source t.watched) c₂).2 = c₂ ∧
        Iteration.Sealed (Publisher.source t.watched) (it.close (Publisher.source t.watched) c₂).1
  /-- What the first question gives of a reply, of an operation without one, and of an error. -/
  replied : ∀ (w : σ) (reply : Reply π), (t.await native w).1 = .done reply →
    ∀ n, ((t.await native w).1.map p.delivered).pulls (p.operation != .void) (n + 1) =
      (if p.operation = .void then .ended else .item (p.delivered reply)) :: List.replicate n .ended
  raised : ∀ (w : σ) (e : Failure), (t.await native w).1 = .failed e → ¬e.EndsIteration →
    ∀ n, ((t.await native w).1.map p.delivered).pulls (p.operation != .void) (n + 1) =
      .failed e :: List.replicate n .ended
  /-- An error that the loop hands over as it is. -/
  handed : ∀ e : Failure, e.handedOver = e ↔ e.HandedOn

theorem liftsReply_lifted (p : Plan) (hshape : t.shape native = .single) :
    p.LiftsReply t native (.lifted (p.rewrap native) (p.operation != .void)) where
  asked w n := by
    cases n with
    | zero =>
        exact ⟨_, rfl, fun w' m => ⟨(Publisher.Lifted.unasked _ _).close_eq t.watched w',
          Publisher.answers_pull_spent t.watched m w'⟩⟩
    | succ n =>
        obtain ⟨q', hanswers, hq'⟩ :=
          Publisher.answers_pull_lifted (p.await_rewrap_watched hshape w []) n
        exact ⟨q', hanswers, fun w' m => ⟨hq'.close_eq t.watched w',
          Publisher.answers_pull_spent t.watched m w'⟩⟩
  iterated c n := by
    -- giving up awaits nothing and seals the iteration, wherever it stands
    have hover (it : Iteration (Publisher π)) (hq : it.source.Lifted) (c₂ : Context (Watched π σ)) :
        (it.close (Publisher.source t.watched) c₂).2 = c₂ ∧
          Iteration.Sealed (Publisher.source t.watched)
            (it.close (Publisher.source t.watched) c₂).1 :=
      ⟨hq.iteration_close t.watched c₂,
        Iteration.sealed_of_finished (Iteration.close_finishes _ it c₂)⟩
    cases n with
    | zero => exact ⟨_, c.watched [], rfl, rfl, hover _ (.unasked _ _)⟩
    | succ n =>
        obtain ⟨it, c', hanswers, hq', hworld⟩ :=
          Publisher.answers_step_lifted (c := c.watched []) (p.await_rewrap_watched hshape c.world []) n
        exact ⟨it, c', hanswers, hworld, hover it hq'⟩
  replied w reply hreply n := by
    rw [hreply]
    by_cases hvoid : p.operation = .void <;> simp [Outcome.map, Outcome.pulls, Outcome.pulled, hvoid]
  raised w e he hordinary n := by
    rw [he]
    exact Outcome.pulls_of_failed _ hordinary n
  handed := Failure.handedOver_eq_self_iff

/-! ### Handing over -/

theorem world_handOver (a : Adapter) (q : Publisher π) (c : Context σ) :
    (handOver a q c).2.world = c.world := by
  unfold handOver
  split
  · exact c.start_world
  · rfl

theorem execute_of_adapter {a : Adapter} {r : Request} {c : Context σ} {w : σ} (name : String)
    (hreturn : p.returnAdapter = some a)
    (hcall : t.call p.operation p.toldType r c.world = (.ok native, w)) :
    p.execute t name r c = (.ok (.container (a.convert (p.wrap native))),
      (handOver a (p.wrap native) { c with world := w }).2) := by
  simp only [execute, request, hcall, hreturn]
  rfl

end Plan

end HttpContract
