import HttpContract.Proofs.Loop.Waiting
import HttpContract.Proofs.Plan.EntityStream
import HttpContract.Proofs.Plan.ShapeSafety

/-!
# Delivering entities with a streamed body

An entity of the transport comes to the caller with its status and its header fields, as the result of a
call that waits or out of the publisher in a container. Its stream goes through the adapter of the declared
stream, unless the native form of that adapter is the stream of the transport itself.
-/

namespace HttpContract

variable {σ π : Type}

/-! ## The body -/

/-- What an entity has for a stream of the transport, when its body is declared with an adapter. -/
def Adapter.entityBody (a : Adapter) (stream : π) : Container π :=
  if a.native = .asyncIterator then .ofNative stream else a.convert (.native stream)

theorem Adapter.entityBody_eq_convert_iff {a : Adapter} {stream : π} :
    a.entityBody stream = a.convert (.native stream) ↔
      (a.native = .asyncIterator → a.conversion = .identity) := by
  unfold Adapter.entityBody Adapter.convert Container.ofNative
  split
  · rename_i hnative
    simp [hnative, eq_comm]
  · rename_i hnative
    simp [hnative]

/-! ## Giving replies -/

namespace Publisher

/-- A publisher gives a reply: when it is awaited, or as its only element. -/
def Gives (t : Transport σ π) (q : Publisher π) (w : σ) (reply : Reply (Container π)) (w' : σ) : Prop :=
  match q.shape t with
  | .single => q.await t w = (.done reply, w')
  | .stream => q.next t w = (.item reply, .spent, w')

variable {t : Transport σ π} {q : Publisher π} {w w' : σ} {reply : Reply (Container π)}

theorem gives_of_await (hshape : q.shape t = .single) (hawait : q.await t w = (.done reply, w')) :
    q.Gives t w reply w' := by
  unfold Gives
  rw [hshape]
  exact hawait

theorem gives_lifted (hawait : q.await t w = (.done reply, w')) :
    (lifted q true).Gives t w reply w' := by
  show (lifted q true).next t w = _
  simp only [next, hawait, if_true]

end Publisher

namespace Plan

variable {t : Transport σ π} {p : Plan} {a : Adapter}

/-! ## Wrapping -/

section Wrapping

variable {native stream : π} {w w' : σ} {status : Int} {headers : Headers}

theorem shape_rewrap_of_single (p : Plan) (hshape : t.shape native = .single) :
    (p.rewrap native).shape t = .single := by
  unfold rewrap
  split
  · rfl
  · exact hshape

theorem delivered_entity (hbody : p.bodyAdapter = if a.native = .asyncIterator then none else some a)
    (status : Int) (headers : Headers) (stream : π) :
    p.delivered (.entity status headers (.stream stream)) =
      .entity status headers (.stream (a.entityBody stream)) := by
  by_cases hnative : a.native = .asyncIterator
  · simp only [delivered, hbody, Adapter.entityBody, if_pos hnative, Reply.mapStream]
  · simp only [delivered, hbody, Adapter.entityBody, if_neg hnative]
    rfl

theorem await_rewrap_entity (hbody : p.bodyAdapter = if a.native = .asyncIterator then none else some a)
    (hshape : t.shape native = .single)
    (hawait : t.await native w = (.done (.entity status headers (.stream stream)), w')) :
    (p.rewrap native).await t w =
      (.done (.entity status headers (.stream (a.entityBody stream))), w') := by
  rw [p.await_rewrap hshape, hawait, Outcome.map, delivered_entity hbody]

theorem gives_wrap (hop : p.operation = .entityFlux)
    (hbody : p.bodyAdapter = if a.native = .asyncIterator then none else some a)
    (hshape : t.shape native = .single)
    (hawait : t.await native w = (.done (.entity status headers (.stream stream)), w')) :
    (p.wrap native).Gives t w (.entity status headers (.stream (a.entityBody stream))) w' := by
  rw [wrap_eq]
  split
  · rw [hop]
    exact Publisher.gives_lifted (await_rewrap_entity hbody hshape hawait)
  · exact Publisher.gives_of_await (shape_rewrap_of_single p hshape) (await_rewrap_entity hbody hshape hawait)

end Wrapping

/-! ## Delivery -/

/-- An answer of the transport comes to the caller as a reply: it is what a call returns that waits for it
and to which it comes in time, and otherwise what is given by the publisher in the container that the call
returns. -/
structure Delivers (t : Transport σ π) (p : Plan) (answer : Reply π) (reply : Reply (Container π)) :
    Prop where
  waited : p.returnAdapter = none →
    ∀ (name : String) (r : Request) (c : Context σ) (native : π) (w w' : σ),
      t.call p.operation p.toldType r c.world = (.ok native, w) → t.shape native = .single →
        t.await native w = (.done answer, w') →
          Came p.blockTimeout (((p.wrap native).awaitable t).future w) →
            (p.execute t name r c).1 = .ok (.reply reply)
  contained : ∀ b, p.returnAdapter = some b →
    ∀ (name : String) (r : Request) (c : Context σ) (native : π) (w : σ),
      t.call p.operation p.toldType r c.world = (.ok native, w) → t.shape native = .single →
        ∃ q, (p.execute t name r c).1 = .ok (.container (b.convert q)) ∧
          ∀ w₁ w₂, t.await native w₁ = (.done answer, w₂) → q.Gives t w₁ reply w₂

theorem WellFormed.delivers (hp : p.WellFormed) (hop : p.operation = .entityFlux)
    (hbody : p.bodyAdapter = if a.native = .asyncIterator then none else some a) (t : Transport σ π)
    (status : Int) (headers : Headers) (stream : π) :
    p.Delivers t (.entity status headers (.stream stream))
      (.entity status headers (.stream (a.entityBody stream))) where
  waited hreturn name r c native w w' hcall hshape hawait hcame := by
    have hlifts : p.liftsSingle = false := by
      rw [Bool.eq_false_iff, Ne, hp.lifts, hreturn]
      exact fun h => Bool.false_ne_true h.1
    have hwrap : p.wrap native = p.rewrap native := by
      rw [wrap_eq, hlifts]
      rfl
    have hrun := Context.run_of_came (c := { c with world := w }) name hcame
    rw [execute_fst_of_call hcall, received, hreturn]
    simp only [hrun]
    rw [hwrap, Awaitable.future]
    show (Outcome.handedOver _).toExcept.map Result.reply = _
    rw [show ((p.rewrap native).awaitable t).await w = _ from await_rewrap_entity hbody hshape hawait]
    rfl
  contained b hreturn name r c native w hcall hshape := by
    refine ⟨p.wrap native, ?_, fun w₁ w₂ hawait => gives_wrap hop hbody hshape hawait⟩
    rw [execute_fst_of_call hcall, received, hreturn]

/-- Every entity that the transport answers for an entity of a stream is delivered with its status and its
header fields. Its body is the stream as the adapter converts it, unless the native form of the adapter is
the stream of the transport, which then stays as it is: the same only if the adapter converts nothing. -/
theorem entity_of_stream_delivered {registry : Registry} {s result : Hint} {a : Adapter}
    (hs : registry.findOrigin? s = some a) (hmulti : a.multiValue = true)
    (hresult : DeclaresEntity registry s result) (blockTimeout : Value) :
    ∃ p, compile result registry blockTimeout = .ok p ∧
      (p.operation = .entityFlux ↔ s.unwrap.isVoid = false) ∧
      (p.operation = .entityFlux →
        ∀ (σ π : Type) (t : Transport σ π) (status : Int) (headers : Headers) (stream : π),
          p.Delivers t (.entity status headers (.stream stream))
              (.entity status headers (.stream (a.entityBody stream))) ∧
            (a.entityBody stream = a.convert (.native stream) ↔
              (a.native = .asyncIterator → a.conversion = .identity))) := by
  have hp := compile_of_declaresEntity hresult hs hmulti blockTimeout
  refine ⟨_, hp, streamChoice_operation_iff, fun hop σ π t status headers stream => ?_⟩
  have hvoid : s.unwrap.isVoid = false := streamChoice_operation_iff.mp hop
  have hbody : (streamChoice s a).bodyAdapter = if a.native = .asyncIterator then none else some a := by
    simp only [streamChoice, hvoid, Bool.false_eq_true, if_false]
  exact ⟨(compile_wellFormed hp).delivers hop hbody t status headers stream,
    Adapter.entityBody_eq_convert_iff⟩

/-- In a future, an entity of an iterator has its stream for a body as the iterator adapter converts it. -/
theorem entity_of_iterator_delivered_in_future :
    let iterator : Adapter :=
      { container := .iterator, multiValue := true, native := .iterator, conversion := .iterator }
    let result := Hint.genericOf .future [.entityOf (.genericOf .iterator [.cls .int])]
    ∃ p, compile result .default (.int 5) = .ok p ∧ p.operation = .entityFlux ∧
      ∀ (σ π : Type) (t : Transport σ π) (status : Int) (headers : Headers) (stream : π),
        p.Delivers t (.entity status headers (.stream stream))
          (.entity status headers (.stream (iterator.convert (.native stream)))) := by
  intro iterator result
  have hs : Registry.default.findOrigin? (.genericOf .iterator [.cls .int]) = some iterator := by rfl
  have hfuture : Registry.default.findOrigin? result =
      some { container := .future, conversion := .future } := by rfl
  have hresult : DeclaresEntity .default (.genericOf .iterator [.cls .int]) result :=
    .inside hfuture rfl (Hint.hasTypeArg_genericOf (i := 0) rfl)
  obtain ⟨p, hp, hop, hdelivers⟩ := entity_of_stream_delivered hs rfl hresult (.int 5)
  have hflux : p.operation = .entityFlux := hop.mpr rfl
  refine ⟨p, hp, hflux, fun σ π t status headers stream => ?_⟩
  obtain ⟨hdelivered, hconverted⟩ := hdelivers hflux σ π t status headers stream
  rw [hconverted.mpr fun hnative => absurd hnative (by decide)] at hdelivered
  exact hdelivered

/-- A foreign stream that takes the stream of the transport itself is not made for the body of an entity. -/
theorem entity_of_foreign_stream_unconverted :
    let flux : Adapter :=
      { container := { name := "Flux" }, multiValue := true, native := .asyncIterator
        conversion := .box "flux" }
    let registry := Registry.default.register flux
    let s := Hint.genericOf flux.container [.cls .int]
    let stream := Rehearsal.Handle.stream { items := [.int 1, .int 2] }
    registry.find? .responseEntity = none ∧ registry.findOrigin? s = some flux ∧
      ∃ p, compile (.entityOf s) registry (.int 5) = .ok p ∧ p.operation = .entityFlux ∧
        ¬p.Delivers Rehearsal.scripted (.entity 206 {} (.stream stream))
          (.entity 206 {} (.stream (flux.convert (.native stream)))) := by
  intro flux registry s stream
  refine ⟨by rfl, by rfl, _, by rfl, rfl, fun hdelivers => ?_⟩
  let stage : Rehearsal.Stage := { responses := [{ status := 206, items := [.int 1, .int 2] }] }
  have hboxed := hdelivers.waited rfl anonymousCall {} { world := stage } _ _ _ (by rfl) (by rfl) (by rfl)
    (.within (show _ = Except.ok (Limit.within 5000000000) by rfl) (by rfl))
  change Except.ok (Result.reply (.entity 206 {} (.stream (Container.ofNative stream)))) = _ at hboxed
  simp [Container.ofNative, Adapter.convert, flux] at hboxed

end Plan

end HttpContract
