import HttpContract.Proofs.Loop.Watching

/-!
# Waiting on the loop

`Waited` says what a wait gives: what the work gave in time, or a timeout upon which the work is asked to
stop, never both. What the loop was used for before has no part in it.
-/

namespace HttpContract

variable {σ α : Type}

/-! ## Earlier uses -/

/-- One use of the loop: a wait, work handed over, a question to an iteration or its end, or the closing of
the loop. -/
inductive Use (σ : Type) : Type 1 where
  | run {α : Type} (work : Awaitable σ α) (limit : Value) (name : String)
  | submit {α : Type} (work : Awaitable σ α)
  | ask {τ α : Type} (s : Source σ τ α) (it : Iteration τ)
  | giveUp {τ α : Type} (s : Source σ τ α) (it : Iteration τ)
  | close

def Use.perform : Use σ → Context σ → Context σ
  | run work limit name, c => (c.run work limit name).2
  | submit work, c => (c.submit work).2
  | ask s it, c => (it.next s c).2.2
  | giveUp s it, c => (it.close s c).2
  | close, c => c.stop

def Context.after (c : Context σ) (uses : List (Use σ)) : Context σ :=
  uses.foldl (fun c use => use.perform c) c

/-! ## Outcomes and futures -/

namespace Outcome

variable {outcome : Outcome α}

theorem isPending_eq_false_iff : outcome.isPending = false ↔ outcome ≠ .pending := by
  cases outcome <;> simp [isPending]

theorem handedOver_eq_pending_iff : outcome.handedOver = .pending ↔ outcome = .pending := by
  cases outcome <;> simp [handedOver]

end Outcome

/-- The time of the last look at work with a limit to the wait for it. -/
def Pace.lastLook (p : Pace) (time : Nat) : Nat := p.look + time + p.wake + p.check

namespace Future

variable {f : Future α} {time later : Nat} {limit : Except Limit.Error Limit}

theorem isDone_iff : f.isDone time = true ↔ f.pace.finish ≤ time ∧ f.outcome ≠ .pending := by
  unfold isDone state
  split
  · rename_i hfinish
    rw [Bool.not_eq_true', Outcome.isPending_eq_false_iff, and_iff_right hfinish]
  · rename_i hfinish
    simp [Outcome.isPending, hfinish]

theorem isDone_mono (hdone : f.isDone time = true) (hle : time ≤ later) : f.isDone later = true := by
  rw [isDone_iff] at hdone ⊢
  exact ⟨Nat.le_trans hdone.1 hle, hdone.2⟩

theorem not_isDone_mono (hdone : f.isDone later = false) (hle : time ≤ later) : f.isDone time = false := by
  rw [Bool.eq_false_iff] at hdone ⊢
  exact fun hearly => hdone (isDone_mono hearly hle)

theorem state_of_isDone (hdone : f.isDone time = true) : f.state time = f.outcome :=
  if_pos (isDone_iff.mp hdone).1

theorem state_of_not_isDone (hdone : f.isDone time = false) : f.state time = .pending := by
  unfold isDone at hdone
  cases hstate : f.state time with
  | pending => rfl
  | _ => simp [hstate, Outcome.isPending] at hdone

theorem result_of_done (hdone : f.isDone f.pace.look = true) :
    f.result limit = (f.outcome, f.pace.look) := by
  have hcame := (isDone_iff.mp hdone).2
  unfold result
  rw [state_of_isDone hdone]
  cases houtcome : f.outcome with
  | pending => exact absurd houtcome hcame
  | _ => rfl

theorem result_endless_of_not_done (hlook : f.isDone f.pace.look = false) :
    f.result (.ok .endless) = (f.outcome, f.pace.look + f.pace.finish) := by
  unfold result
  rw [state_of_not_isDone hlook]

theorem result_endless (f : Future α) : (f.result (.ok .endless)).1 = f.outcome := by
  cases hlook : f.isDone f.pace.look with
  | true => rw [result_of_done hlook]
  | false => rw [result_endless_of_not_done hlook]

/-- The time at which a waiting thread wakes up. -/
def woken (f : Future α) (time : Nat) : Nat := f.pace.look + time + f.pace.wake

theorem result_of_woken (hlook : f.isDone f.pace.look = false) (hdone : f.isDone (f.woken time) = true) :
    f.result (.ok (.within time)) = (f.outcome, f.woken time) := by
  have hstate : f.state (f.pace.look + time + f.pace.wake) = f.outcome := state_of_isDone hdone
  unfold result
  rw [state_of_not_isDone hlook]
  simp only [hstate]
  cases houtcome : f.outcome with
  | pending => exact absurd houtcome (isDone_iff.mp hdone).2
  | _ => rfl

theorem result_of_expired (hdone : f.isDone (f.woken time) = false) :
    f.result (.ok (.within time)) = (.failed .expired, f.woken time) := by
  have hle : f.pace.look ≤ f.woken time := by
    unfold woken
    omega
  have hlook : f.isDone f.pace.look = false := not_isDone_mono hdone hle
  have hstate : f.state (f.pace.look + time + f.pace.wake) = .pending := state_of_not_isDone hdone
  unfold result
  rw [state_of_not_isDone hlook]
  simp only [hstate]
  rfl

end Future

/-! ## Limits -/

/-- The future is finished when its result is asked for, or at the last look. -/
inductive Came (limit : Value) (f : Future α) : Prop where
  | before (hdone : f.isDone f.pace.look = true)
  | endless (hlimit : Limit.ofValue limit = .ok .endless) (hcame : f.outcome ≠ .pending)
  | within {time : Nat} (hlimit : Limit.ofValue limit = .ok (.within time))
      (hdone : f.isDone (f.pace.lastLook time) = true)

/-- The future is not finished so long after the last look. -/
inductive Overdue (limit : Value) (f : Future α) (delay : Nat) : Prop where
  | within {time : Nat} (hlimit : Limit.ofValue limit = .ok (.within time))
      (hdone : f.isDone (f.pace.lastLook time + delay) = false)

/-- Work that finishes within the limit is not missed, however slow the waiting thread is. -/
theorem came_of_finish_le {limit : Value} {f : Future α} {time : Nat}
    (hlimit : Limit.ofValue limit = .ok (.within time)) (hcame : f.outcome ≠ .pending)
    (hfinish : f.pace.finish ≤ time) : Came limit f := by
  have hlast : f.pace.finish ≤ f.pace.lastLook time := by
    unfold Pace.lastLook
    omega
  exact .within hlimit (Future.isDone_iff.mpr ⟨hlast, hcame⟩)

theorem Came.not_overdue {limit : Value} {f : Future α} (hcame : Came limit f) (delay : Nat) :
    ¬Overdue limit f delay := by
  rintro ⟨hlimit, hlate⟩
  rename_i time
  cases hcame with
  | before hdone =>
      have hle : f.pace.look ≤ f.pace.lastLook time + delay := by
        unfold Pace.lastLook
        omega
      exact Bool.false_ne_true ((Future.not_isDone_mono hlate hle).symm.trans hdone)
  | endless hlimit' _ => cases hlimit.symm.trans hlimit'
  | within hlimit' hdone =>
      cases hlimit.symm.trans hlimit'
      have hlast := Future.not_isDone_mono hlate (Nat.le_add_right (f.pace.lastLook time) delay)
      exact Bool.false_ne_true (hlast.symm.trans hdone)

/-- A limit cannot be waited for, or it leaves all the time to work that takes more, or the work came, or it
is overdue. -/
theorem came_or_overdue (limit : Value) (f : Future α) :
    Came limit f ∨ Overdue limit f 0 ∨
      f.isDone f.pace.look = false ∧
        ((∃ e, Limit.ofValue limit = .error e) ∨
          Limit.ofValue limit = .ok .endless ∧ f.outcome = .pending) := by
  cases hlook : f.isDone f.pace.look with
  | true => exact .inl (.before hlook)
  | false =>
      cases hlimit : Limit.ofValue limit with
      | error e => exact .inr (.inr ⟨rfl, .inl ⟨e, rfl⟩⟩)
      | ok kind =>
          cases kind with
          | endless =>
              by_cases hpending : f.outcome = .pending
              · exact .inr (.inr ⟨rfl, .inr ⟨rfl, hpending⟩⟩)
              · exact .inl (.endless hlimit hpending)
          | within time =>
              cases hdone : f.isDone (f.pace.lastLook time) with
              | true => exact .inl (.within hlimit hdone)
              | false => exact .inr (.inl (.within hlimit hdone))

/-! ## The outcome of a wait -/

/-- What a wait gives, the world it leaves, and what was asked of the work. -/
inductive Waited (work : Awaitable σ α) (limit : Value) (name : String) (w : σ) :
    Except Failure α → σ → List WorkNote → Prop where
  | returned {a : α} {w' : σ} (hcame : Came limit (work.future w)) (hwork : work.await w = (.done a, w')) :
      Waited work limit name w (.ok a) w' [.awaited]
  | raised {e : Failure} {w' : σ} (hcame : Came limit (work.future w))
      (hwork : work.await w = (.failed e, w')) :
      Waited work limit name w (.error e.handedOver) w' [.awaited]
  | timedOut {outcome : Outcome α} {w' : σ} (hlate : Overdue limit (work.future w) (work.pace w).cancel)
      (hwork : work.await w = (outcome, w')) :
      Waited work limit name w (.error (.timeout name limit)) (work.cancel w') [.awaited, .cancelled]
  /-- The work finishes between the last look and the request to stop, which it is not told then. -/
  | missed {outcome : Outcome α} {w' : σ} (hlate : Overdue limit (work.future w) 0)
      (hcame : ¬Overdue limit (work.future w) (work.pace w).cancel) (hwork : work.await w = (outcome, w')) :
      Waited work limit name w (.error (.timeout name limit)) w' [.awaited]
  /-- No clock counts as long as the limit; the work goes on without anyone waiting. -/
  | unusable {e : Limit.Error} {outcome : Outcome α} {w' : σ} (hlimit : Limit.ofValue limit = .error e)
      (hlook : (work.future w).isDone (work.pace w).look = false) (hwork : work.await w = (outcome, w')) :
      Waited work limit name w (.error (.unusableLimit e)) w' [.awaited]
  | unending {w' : σ} (hlimit : Limit.ofValue limit = .ok .endless) (hwork : work.await w = (.pending, w')) :
      Waited work limit name w (.error .unending) w' [.awaited]

namespace Context

variable {work : Awaitable σ α} {limit : Value} {c : Context σ} {f : Future α} {time : Nat}

/-- The context after work was handed to the loop. -/
def submitted (work : Awaitable σ α) (c : Context σ) : Context σ :=
  { c.start with world := (work.await c.world).2 }

theorem submit_eq (work : Awaitable σ α) (c : Context σ) :
    c.submit work = (work.future c.world, c.submitted work) := by
  simp only [submit, submitted, start_world]

theorem settle_of_done (name : String) (hdone : f.isDone (time + f.pace.check) = true) :
    c.settle work limit name f time = (f.outcome.toExcept, c) := by
  simp only [settle, hdone, if_true, Future.result_endless]

theorem settle_of_not_done (name : String) (hdone : f.isDone (time + f.pace.check) = false) :
    c.settle work limit name f time =
      (.error (.timeout name limit), c.withdraw work f (time + f.pace.check + f.pace.cancel)) := by
  simp only [settle, hdone, Bool.false_eq_true, if_false]

/-- Whatever the work gives is given on, a failure that looks like the end of the wait included. -/
theorem run_of_result (name : String)
    (hresult : (work.future c.world).result (Limit.ofValue limit) = ((work.future c.world).outcome, time))
    (hdone : (work.future c.world).isDone (time + (work.pace c.world).check) = true) :
    c.run work limit name = ((work.future c.world).outcome.toExcept, c.submitted work) := by
  simp only [run, submit_eq, hresult]
  cases houtcome : (work.future c.world).outcome with
  | failed e =>
      simp only
      split
      · rw [settle_of_done name hdone, houtcome]
      · rfl
  | _ => rfl

/-- The end of the wait is told from a failure of the work by a look at the future. -/
theorem run_of_expired (name : String)
    (hresult : (work.future c.world).result (Limit.ofValue limit) = (.failed .expired, time)) :
    c.run work limit name =
      (c.submitted work).settle work limit name (work.future c.world) time := by
  simp only [run, submit_eq, hresult]
  exact if_pos rfl

theorem run_of_came (name : String) (hcame : Came limit (work.future c.world)) :
    c.run work limit name = ((work.future c.world).outcome.toExcept, c.submitted work) := by
  cases hlook : (work.future c.world).isDone (work.future c.world).pace.look with
  | true =>
      exact run_of_result name (Future.result_of_done hlook) (Future.isDone_mono hlook (Nat.le_add_right _ _))
  | false =>
      cases hcame with
      | before hdone => exact absurd (hlook.symm.trans hdone) Bool.false_ne_true
      | endless hlimit hcame =>
          have hresult := Future.result_endless_of_not_done hlook
          rw [← hlimit] at hresult
          have hlast : (work.future c.world).pace.finish ≤
              (work.pace c.world).look + (work.pace c.world).finish + (work.pace c.world).check := by
            show (work.pace c.world).finish ≤ _
            omega
          exact run_of_result name hresult (Future.isDone_iff.mpr ⟨hlast, hcame⟩)
      | @within time hlimit hdone =>
          cases hwoken : (work.future c.world).isDone ((work.future c.world).woken time) with
          | true =>
              have hresult := Future.result_of_woken hlook hwoken
              rw [← hlimit] at hresult
              exact run_of_result name hresult hdone
          | false =>
              -- the wait is over, but at the last look the work has finished meanwhile
              have hresult := Future.result_of_expired hwoken
              rw [← hlimit] at hresult
              rw [run_of_expired name hresult]
              exact settle_of_done name hdone

theorem run_of_late (name : String) (hlimit : Limit.ofValue limit = .ok (.within time))
    (hlate : (work.future c.world).isDone ((work.pace c.world).lastLook time) = false) :
    c.run work limit name = (.error (.timeout name limit),
      (c.submitted work).withdraw work (work.future c.world)
        ((work.pace c.world).lastLook time + (work.pace c.world).cancel)) := by
  have hwoken : (work.future c.world).isDone ((work.future c.world).woken time) = false :=
    Future.not_isDone_mono hlate (Nat.le_add_right _ _)
  have hresult := Future.result_of_expired hwoken
  rw [← hlimit] at hresult
  rw [run_of_expired name hresult]
  exact settle_of_not_done name hlate

section Late

variable (name : String) (hlimit : Limit.ofValue limit = .ok (.within time))
  (hlate : (work.future c.world).isDone ((work.pace c.world).lastLook time) = false)
include hlimit hlate

/-- Work that is not finished at the last look is asked to stop. -/
theorem run_of_stopped (hdone : (work.future c.world).isDone
      ((work.pace c.world).lastLook time + (work.pace c.world).cancel) = false) :
    c.run work limit name =
      (.error (.timeout name limit), { c.start with world := work.cancel (work.await c.world).2 }) := by
  rw [run_of_late name hlimit hlate, withdraw, hdone]
  rfl

/-- Work that finishes after the last look, but before it is asked to stop, is not disturbed. -/
theorem run_of_missed (hdone : (work.future c.world).isDone
      ((work.pace c.world).lastLook time + (work.pace c.world).cancel) = true) :
    c.run work limit name = (.error (.timeout name limit), c.submitted work) := by
  rw [run_of_late name hlimit hlate, withdraw, hdone]
  rfl

end Late

theorem run_of_unusable (name : String) {e : Limit.Error} (hlimit : Limit.ofValue limit = .error e)
    (hlook : (work.future c.world).isDone (work.pace c.world).look = false) :
    c.run work limit name = (.error (.unusableLimit e), c.submitted work) := by
  have hstate : (work.future c.world).state (work.future c.world).pace.look = .pending :=
    Future.state_of_not_isDone hlook
  simp only [run, submit_eq, hlimit, Future.result, hstate]
  rfl

theorem run_of_unending (name : String) (hlimit : Limit.ofValue limit = .ok .endless)
    (hpending : (work.future c.world).outcome = .pending) :
    c.run work limit name = (.error .unending, c.submitted work) := by
  have hlook : (work.future c.world).isDone (work.future c.world).pace.look = false := by
    rw [Bool.eq_false_iff, Ne, Future.isDone_iff]
    exact fun h => h.2 hpending
  simp only [run, submit_eq, hlimit, Future.result_endless_of_not_done hlook, hpending]
  rfl

/-! ### Watched waits -/

theorem waited_of_came {w : σ} (name : String) (hcame : Came limit (work.future w)) :
    Waited work limit name w (work.future w).outcome.toExcept (work.await w).2 [.awaited] := by
  have hpending : (work.future w).outcome ≠ .pending := by
    cases hcame with
    | before hdone => exact (Future.isDone_iff.mp hdone).2
    | endless _ hcame => exact hcame
    | within _ hdone => exact (Future.isDone_iff.mp hdone).2
  unfold Awaitable.future at hpending ⊢
  rcases hwork : work.await w with ⟨outcome, w'⟩
  rw [hwork] at hpending
  cases outcome with
  | done a => exact .returned hcame hwork
  | failed e => exact .raised hcame hwork
  | pending => exact absurd rfl hpending

theorem submitted_watched (work : Awaitable σ α) (c : Context σ) :
    (c.watched []).submitted work.watched = (c.submitted work).watched [WorkNote.awaited] :=
  started_watched c [] [WorkNote.awaited] (work.await c.world).2

theorem waited_run (c : Context σ) (work : Awaitable σ α) (limit : Value) (name : String) :
    ∃ result w notes, c.run work limit name = (result, { c.start with world := w }) ∧
      (c.watched []).run work.watched limit name =
        (result, ({ c.start with world := w } : Context σ).watched notes) ∧
      Waited work limit name c.world result w notes := by
  -- the watched work has the same future, so every wait goes the same way for both
  have hwork : work.await c.world = ((work.await c.world).1, (work.await c.world).2) := rfl
  have hnoted := submitted_watched work c
  rcases came_or_overdue limit (work.future c.world) with hcame | ⟨⟨hlimit, hlate⟩⟩ | ⟨hlook, hlimit⟩
  · have hwatched : (c.watched []).run work.watched limit name = _ := run_of_came name hcame
    rw [hnoted] at hwatched
    exact ⟨_, _, _, run_of_came name hcame, hwatched, waited_of_came name hcame⟩
  · cases hdone : (work.future c.world).isDone
        ((work.pace c.world).lastLook _ + (work.pace c.world).cancel) with
    | true =>
        have hcame : ¬Overdue limit (work.future c.world) (work.pace c.world).cancel := by
          rintro ⟨hlimit', hlate'⟩
          cases hlimit.symm.trans hlimit'
          exact Bool.false_ne_true (hlate'.symm.trans hdone)
        have hwatched : (c.watched []).run work.watched limit name = _ := run_of_missed name hlimit hlate hdone
        rw [hnoted] at hwatched
        exact ⟨_, _, _, run_of_missed name hlimit hlate hdone, hwatched, .missed ⟨hlimit, hlate⟩ hcame hwork⟩
    | false =>
        have hwatched : (c.watched []).run work.watched limit name = _ := run_of_stopped name hlimit hlate hdone
        exact ⟨_, _, _, run_of_stopped name hlimit hlate hdone,
          hwatched.trans (congrArg (Prod.mk _) (started_watched c [] _ _)), .timedOut ⟨hlimit, hdone⟩ hwork⟩
  · rcases hlimit with ⟨e, hlimit⟩ | ⟨hlimit, hpending⟩
    · have hwatched : (c.watched []).run work.watched limit name = _ := run_of_unusable name hlimit hlook
      rw [hnoted] at hwatched
      exact ⟨_, _, _, run_of_unusable name hlimit hlook, hwatched, .unusable hlimit hlook hwork⟩
    · have hwatched : (c.watched []).run work.watched limit name = _ := run_of_unending name hlimit hpending
      rw [hnoted] at hwatched
      refine ⟨_, _, _, run_of_unending name hlimit hpending, hwatched, .unending hlimit ?_⟩
      rw [← Outcome.handedOver_eq_pending_iff.mp hpending]

/-- Only the world has a part in a wait, not whether the loop runs nor what was noted in the log. -/
theorem run_of_world_eq {c c' : Context σ} (hworld : c.world = c'.world) (work : Awaitable σ α)
    (limit : Value) (name : String) :
    (c.run work limit name).1 = (c'.run work limit name).1 ∧
      (c.run work limit name).2.world = (c'.run work limit name).2.world := by
  have hsubmitted : (c.submitted work).world = (c'.submitted work).world := by
    simp only [submitted, hworld]
  simp only [run, submit_eq, hworld]
  generalize work.future c'.world = f
  rcases f.result (Limit.ofValue limit) with ⟨outcome, time⟩
  cases outcome with
  | failed e =>
      simp only [settle, withdraw]
      split
      · split
        · exact ⟨rfl, hsubmitted⟩
        · split
          · exact ⟨rfl, hsubmitted⟩
          · exact ⟨rfl, congrArg work.cancel hsubmitted⟩
      · exact ⟨rfl, hsubmitted⟩
  | _ => exact ⟨rfl, hsubmitted⟩

end Context

end HttpContract
