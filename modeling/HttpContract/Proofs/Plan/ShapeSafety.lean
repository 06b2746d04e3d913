import HttpContract.Execution
import HttpContract.Proofs.Plan.Choice
import HttpContract.Rehearsal.ScriptedTransport

/-!
# Shapes of publishers

A transport honours its protocol when its publishers have the shapes of their operations. Under such a
transport a compiled plan hands every publisher over in the shape that its receiver works on.
-/

namespace HttpContract

variable {σ π : Type}

/-! ## Publishers -/

theorem Operation.shape_eq_single {op : Operation} (h : op ≠ .bodyFlux) : op.shape = .single := by
  cases op with
  | bodyFlux => exact absurd rfl h
  | _ => rfl

/-- Elements come from the streamed body, a single reply from every other operation. -/
def Transport.HonoursShapes (t : Transport σ π) : Prop :=
  ∀ (op : Operation) (told : Option Hint) (r : Request) (w : σ) (native : π) (w' : σ),
    t.call op told r w = (.ok native, w') → t.shape native = op.shape

namespace Publisher

/-- Only single replies are rewrapped and lifted. -/
def WellShaped (t : Transport σ π) : Publisher π → Prop
  | native _ => True
  | rewrapped p _ => p.shape t = .single ∧ p.WellShaped t
  | lifted p _ => p.shape t = .single ∧ p.WellShaped t
  | spent => True

/-- The publishers whose streamed body goes through an adapter, each with its adapter. -/
def rewraps : Publisher π → List (Publisher π × Adapter)
  | native _ => []
  | rewrapped p a => (p, a) :: p.rewraps
  | lifted p _ => p.rewraps
  | spent => []

/-- Waiting for a single reply awaits a publisher of the transport, and only its reply is changed: no
shape is found wrong on the way. -/
theorem WellShaped.await_eq {t : Transport σ π} {q : Publisher π} (hq : q.WellShaped t)
    (hshape : q.shape t = .single) :
    ∃ native f, t.shape native = .single ∧
      ∀ w, q.await t w = ((t.await native w).1.map f, (t.await native w).2) := by
  induction q with
  | native p =>
      have hp : t.shape p = .single := hshape
      refine ⟨p, Reply.mapStream Container.ofNative, hp, fun w => ?_⟩
      simp only [await, hp]
  | rewrapped p a ih =>
      obtain ⟨native, f, hnative, hawait⟩ := ih hq.2 hq.1
      refine ⟨native, convertBody a ∘ f, hnative, fun w => ?_⟩
      simp only [await, hawait]
      cases (t.await native w).1 <;> rfl
  | lifted p emits => cases hshape
  | spent => cases hshape

end Publisher

namespace Plan

variable {t : Transport σ π} {p : Plan}

/-! ## What a plan does to a publisher -/

/-- The publisher of the transport with the conversion of its body, where the plan has one. -/
def rewrap (p : Plan) (native : π) : Publisher π :=
  match p.bodyAdapter with
  | some a => .rewrapped (.native native) a
  | none => .native native

theorem wrap_eq (p : Plan) (native : π) :
    p.wrap native =
      if p.liftsSingle then .lifted (p.rewrap native) (p.operation != .void) else p.rewrap native :=
  rfl

/-- What a plan makes of a single reply of the transport. -/
def delivered (p : Plan) (reply : Reply π) : Reply (Container π) :=
  match p.bodyAdapter with
  | some a => Publisher.convertBody a (reply.mapStream .ofNative)
  | none => reply.mapStream .ofNative

theorem await_rewrap (p : Plan) {native : π} (hshape : t.shape native = .single) (w : σ) :
    (p.rewrap native).await t w =
      ((t.await native w).1.map p.delivered, (t.await native w).2) := by
  unfold rewrap delivered
  cases p.bodyAdapter with
  | none => simp only [Publisher.await, hshape]
  | some a =>
      simp only [Publisher.await, hshape]
      cases (t.await native w).1 <;> rfl

/-- The shape that a plan's receiver works on: the loop waits for a single reply, as does the adapter of
a single value; the adapter of several values takes a stream. -/
def receivedShape (p : Plan) : Shape :=
  match p.returnAdapter with
  | none => .single
  | some a => if a.multiValue then .stream else .single

theorem receivedShape_of_multiValue (h : p.returnAdapter.any (·.multiValue) = true) :
    p.receivedShape = .stream := by
  unfold receivedShape
  cases hr : p.returnAdapter with
  | none => simp [hr] at h
  | some a => simp_all

theorem receivedShape_of_not_multiValue (h : p.returnAdapter.any (·.multiValue) ≠ true) :
    p.receivedShape = .single := by
  unfold receivedShape
  cases hr : p.returnAdapter with
  | none => rfl
  | some a => simp_all

namespace WellFormed

variable {native : π}

theorem shape_rewrap (hp : p.WellFormed) (hn : t.shape native = p.operation.shape) :
    (p.rewrap native).shape t = p.operation.shape := by
  unfold rewrap
  split
  · rename_i a ha
    rw [(hp.rewraps a ha).1]
    rfl
  · exact hn

theorem wellShaped_rewrap (hp : p.WellFormed) (hn : t.shape native = p.operation.shape) :
    (p.rewrap native).WellShaped t := by
  unfold rewrap
  split
  · rename_i a ha
    refine ⟨?_, trivial⟩
    rw [(hp.rewraps a ha).1] at hn
    exact hn
  · trivial

/-- The wrapped publisher has the shape that the plan's receiver works on. -/
theorem shape_wrap (hp : p.WellFormed) (hn : t.shape native = p.operation.shape) :
    (p.wrap native).shape t = p.receivedShape := by
  rw [wrap_eq]
  split
  · rename_i hl
    rw [receivedShape_of_multiValue (hp.lifts.mp hl).1]
    rfl
  · rename_i hl
    rw [hp.shape_rewrap hn]
    by_cases hop : p.operation = .bodyFlux
    · rw [receivedShape_of_multiValue (hp.streams hop), hop]
      rfl
    · have hmulti : p.returnAdapter.any (·.multiValue) ≠ true := fun hm => hl (hp.lifts.mpr ⟨hm, hop⟩)
      rw [receivedShape_of_not_multiValue hmulti, Operation.shape_eq_single hop]

theorem wellShaped_wrap (hp : p.WellFormed) (hn : t.shape native = p.operation.shape) :
    (p.wrap native).WellShaped t := by
  rw [wrap_eq]
  split
  · rename_i hl
    refine ⟨?_, hp.wellShaped_rewrap hn⟩
    rw [hp.shape_rewrap hn, Operation.shape_eq_single (hp.lifts.mp hl).2]
  · exact hp.wellShaped_rewrap hn

end WellFormed

theorem rewraps_wrap (p : Plan) (native : π) :
    (p.wrap native).rewraps = p.bodyAdapter.toList.map fun a => (.native native, a) := by
  rw [wrap_eq]
  unfold rewrap
  split <;> cases p.bodyAdapter <;> rfl

theorem isSome_toldType_iff (p : Plan) :
    p.toldType.isSome ↔ p.operation ∈ [.entity, .body, .bodyFlux, .entityFlux] := by
  unfold toldType
  cases p.operation <;> simp [Operation.takesBodyType]

/-! ## Performing a call -/

/-- The outcome of a call when its receiver is given a publisher: without a return adapter the loop waits
for the publisher, otherwise the adapter makes its container of it. -/
def received (t : Transport σ π) (p : Plan) (name : String) (c : Context σ) (publisher : Publisher π) :
    Except Failure (Result π) :=
  match p.returnAdapter with
  | none => (c.run (publisher.awaitable t) p.blockTimeout name).1.map .reply
  | some a => .ok (.container (a.convert publisher))

theorem await_fst (t : Transport σ π) (p : Plan) (name : String) (publisher : Publisher π)
    (c : Context σ) :
    (p.await t name publisher c).1 = (c.run (publisher.awaitable t) p.blockTimeout name).1 := by
  unfold await
  split <;> simp_all

theorem execute_fst_of_call {name : String} {r : Request} {c : Context σ} {native : π} {w : σ}
    (h : t.call p.operation p.toldType r c.world = (.ok native, w)) :
    (p.execute t name r c).1 = p.received t name { c with world := w } (p.wrap native) := by
  simp only [execute, request, received, h]
  cases p.returnAdapter with
  | some a => rfl
  | none =>
      rw [← await_fst]
      cases p.await t name (p.wrap native) { c with world := w } with
      | mk answer c' => cases answer <;> rfl

theorem execute_of_call_error {name : String} {r : Request} {c : Context σ} {e : Failure} {w : σ}
    (h : t.call p.operation p.toldType r c.world = (.error e, w)) :
    p.execute t name r c = (.error e, { c with world := w }) := by
  simp only [execute, request, h]

/-! ## Safety -/

/-- A plan that never asks a publisher of a transport for what its shape does not give. -/
structure ShapeSafe (t : Transport σ π) (p : Plan) : Prop where
  /-- The transport is told a type exactly for the operations with a body. -/
  told : p.toldType.isSome ↔ p.operation ∈ [.entity, .body, .bodyFlux, .entityFlux]
  optional : p.blockForOptional = true → p.returnAdapter = none
  /-- What the transport refuses reaches no receiver. -/
  refused : ∀ (name : String) (r : Request) (c : Context σ) (e : Failure) (w : σ),
    t.call p.operation p.toldType r c.world = (.error e, w) →
      p.execute t name r c = (.error e, { c with world := w })
  /-- What the transport gives reaches the receiver in the shape it works on. -/
  handed : ∀ (name : String) (r : Request) (c : Context σ) (native : π) (w : σ),
    t.call p.operation p.toldType r c.world = (.ok native, w) →
      (p.execute t name r c).1 = p.received t name { c with world := w } (p.wrap native) ∧
        (p.wrap native).shape t = p.receivedShape ∧
        (p.wrap native).WellShaped t ∧
        ∀ q ∈ (p.wrap native).rewraps,
          q.1 = .native native ∧ t.shape native = .single ∧ p.operation = .entityFlux

theorem WellFormed.shapeSafe (hp : p.WellFormed) (ht : t.HonoursShapes) : p.ShapeSafe t where
  told := isSome_toldType_iff p
  optional := hp.optional
  refused _ _ _ _ _ h := execute_of_call_error h
  handed name r c native w h := by
    have hn : t.shape native = p.operation.shape := ht _ _ _ _ _ _ h
    refine ⟨execute_fst_of_call h, hp.shape_wrap hn, hp.wellShaped_wrap hn, ?_⟩
    intro q hq
    rw [rewraps_wrap, List.mem_map] at hq
    obtain ⟨a, ha, rfl⟩ := hq
    have hop := (hp.rewraps a (Option.mem_toList.mp ha)).1
    exact ⟨rfl, by rw [hn, hop]; rfl, hop⟩

/-- Every compiled plan is safe under every transport that honours its protocol. -/
theorem shapeSafe_of_compile {result : Hint} {registry : Registry} {blockTimeout : Value} {p : Plan}
    {σ π : Type} {t : Transport σ π} (hp : compile result registry blockTimeout = .ok p)
    (ht : t.HonoursShapes) : p.ShapeSafe t :=
  (compile_wellFormed hp).shapeSafe ht

/-- An iterator over one entity whose body is an iterator: rewrapped, then lifted. -/
theorem shapeSafe_of_compile_iterator_entity :
    let iterator : Adapter :=
      { container := .iterator, multiValue := true, native := .iterator, conversion := .iterator }
    let p : Plan :=
      { operation := .entityFlux
        bodyType := .cls .str
        returnAdapter := some iterator
        bodyAdapter := some iterator
        blockTimeout := .int 5
        liftsSingle := true }
    compile (.generic .iterator [.generic .responseEntity [.generic .iterator [.cls .str]]])
        .default (.int 5) = .ok p ∧
      Rehearsal.scripted.HonoursShapes ∧ p.ShapeSafe Rehearsal.scripted := by
  intro iterator p
  have hp : compile (.generic .iterator [.generic .responseEntity [.generic .iterator [.cls .str]]])
      .default (.int 5) = .ok p := by rfl
  have ht : Rehearsal.scripted.HonoursShapes := fun _ _ _ _ _ _ h =>
    Rehearsal.shape_of_call_scripted h
  exact ⟨hp, ht, shapeSafe_of_compile hp ht⟩

end Plan

end HttpContract
