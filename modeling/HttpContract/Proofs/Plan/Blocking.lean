import HttpContract.Proofs.Loop.Waiting
import HttpContract.Proofs.Plan.ShapeSafety
import HttpContract.Rehearsal.Workload

/-!
# Calls that wait

A plan without a return adapter has its caller wait on the loop for the reply. The call gives what the wait
gives, and the wait gives what the work gave in time, or else a timeout, whatever the loop was used for
before.
-/

namespace HttpContract

variable {σ π α : Type}

namespace Plan

variable {t : Transport σ π} {p : Plan}

theorem world_await (t : Transport σ π) (p : Plan) (name : String) (publisher : Publisher π)
    (c : Context σ) :
    (p.await t name publisher c).2.world =
      (c.run (publisher.awaitable t) p.blockTimeout name).2.world := by
  unfold await
  rcases c.run (publisher.awaitable t) p.blockTimeout name with ⟨answer, c'⟩
  cases answer with
  | ok reply => rfl
  | error e =>
      simp only
      split
      · cases p.timeoutRecord? name <;> rfl
      · rfl

theorem execute_of_blocking {r : Request} {c : Context σ} {native : π} {w : σ} (name : String)
    (hreturn : p.returnAdapter = none)
    (hcall : t.call p.operation p.toldType r c.world = (.ok native, w)) :
    let waited := ({ c with world := w } : Context σ).run ((p.wrap native).awaitable t)
      p.blockTimeout name
    (p.execute t name r c).1 = waited.1.map .reply ∧
      (p.execute t name r c).2.world = waited.2.world := by
  intro waited
  constructor
  · rw [execute_fst_of_call hcall, received, hreturn]
  · simp only [execute, request, hcall, hreturn]
    have hworld := world_await t p name (p.wrap native) { c with world := w }
    rcases hanswer : p.await t name (p.wrap native) { c with world := w } with ⟨answer, c'⟩
    rw [hanswer] at hworld
    cases answer <;> exact hworld

theorem waited_execute {r : Request} {c : Context σ} {native : π} {w : σ} (name : String)
    (hreturn : p.returnAdapter = none)
    (hcall : t.call p.operation p.toldType r c.world = (.ok native, w)) :
    ∃ result w' notes, Waited ((p.wrap native).awaitable t) p.blockTimeout name w result w' notes ∧
      (p.execute t name r c).1 = result.map .reply ∧ (p.execute t name r c).2.world = w' := by
  obtain ⟨result, w', notes, hrun, -, hwaited⟩ :=
    ({ c with world := w } : Context σ).waited_run ((p.wrap native).awaitable t) p.blockTimeout name
  obtain ⟨hresult, hworld⟩ := execute_of_blocking name hreturn hcall
  rw [hrun] at hresult hworld
  exact ⟨result, w', notes, hwaited, hresult, hworld⟩

end Plan

end HttpContract
