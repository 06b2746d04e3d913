import HttpContract.Proofs.Hint.Argument
import HttpContract.Proofs.Plan.Choice

/-!
# Entities with a streamed body

The plan for an entity of a stream asks for the stream, whether the entity is declared alone or inside a
container. The type of the elements is the first type argument of the stream there, and the argument that
the adapter names where the stream is declared alone.
-/

namespace HttpContract

variable {registry : Registry} {s result : Hint} {a : Adapter}

/-- An entity with a body of the given hint. -/
def Hint.entityOf (body : Hint) : Hint := .genericOf .responseEntity [body]

namespace Plan

/-! ## The choice -/

/-- The choice for an entity of a stream with the given adapter; the class of the absent value is no body,
even if it has an adapter. -/
def streamChoice (s : Hint) (a : Adapter) : Choice :=
  if s.unwrap.isVoid then { operation := .bodilessEntity }
  else
    { operation := .entityFlux
      bodyType := s.firstArg
      bodyAdapter := if a.native = .asyncIterator then none else some a }

theorem streamChoice_operation_iff :
    (streamChoice s a).operation = .entityFlux ↔ s.unwrap.isVoid = false := by
  unfold streamChoice
  cases s.unwrap.isVoid <;> simp

theorem chooseEntity_of_stream (hs : registry.findOrigin? s = some a) (hmulti : a.multiValue = true) :
    chooseEntity registry s.unwrap = .ok (streamChoice s a) := by
  have hflat := Registry.flat_of_findOrigin? hs
  have hfind : registry.findOrigin? s.unwrap = some a := by rw [Registry.findOrigin?_unwrap hflat, hs]
  have hfirst : s.unwrap.firstArg = s.firstArg := Hint.firstArg_unwrap hflat
  apply EntityChosen.eq_chooseEntity
  unfold streamChoice
  cases hvoid : s.unwrap.isVoid with
  | true => exact .bodiless hvoid
  | false =>
      rw [← hfirst]
      exact .streamed hvoid hfind hmulti

theorem choose_entityOf_stream {returnAdapter : Option Adapter}
    (hcarries : returnAdapter.any (·.noValue) = false) (hs : registry.findOrigin? s = some a)
    (hmulti : a.multiValue = true) :
    choose registry returnAdapter (.entityOf s) = .ok (streamChoice s a) := by
  have hbody : (Hint.entityOf s).firstArg = s.unwrap := by
    show s.asClass.unwrap = s.unwrap
    rw [Registry.asClass_of_findOrigin? hs]
  apply Chosen.eq_choose
  refine .entity ⟨rfl, hcarries⟩ rfl ?_
  rw [hbody, ← chooseEntity_of_stream hs hmulti]
  exact entityChosen_chooseEntity registry s.unwrap

/-! ## The plan -/

/-- A result that declares an entity with a body of the given hint: alone, where entities have no adapter,
or inside a container that carries a value. -/
inductive DeclaresEntity (registry : Registry) (body : Hint) : Hint → Prop where
  | alone (hentity : registry.find? .responseEntity = none) :
      DeclaresEntity registry body (.entityOf body)
  | inside {container : Hint} {b : Adapter} (hcontainer : registry.findOrigin? container = some b)
      (hcarries : b.noValue = false) (harg : container.HasTypeArg b.valueArg (.entityOf body)) :
      DeclaresEntity registry body container

theorem compile_of_declaresEntity (hresult : DeclaresEntity registry s result)
    (hs : registry.findOrigin? s = some a) (hmulti : a.multiValue = true) (blockTimeout : Value) :
    compile result registry blockTimeout =
      .ok (ofChoice (registry.findOrigin? result.unwrap) false blockTimeout (streamChoice s a)) := by
  cases hresult with
  | alone hentity =>
      have hnone : registry.findOrigin? (Hint.entityOf s).unwrap = none := hentity
      have hchoice : choose registry none (.entityOf s) = .ok (streamChoice s a) :=
        choose_entityOf_stream rfl hs hmulti
      simp only [compile_eq, hnone]
      rw [show actualHint none (Hint.entityOf s).unwrap = .ok (.entityOf s, false) from rfl]
      simp only [Except.bind, hchoice]
      rfl
  | @inside _ b hcontainer hcarries harg =>
      have hflat := Registry.flat_of_findOrigin? hcontainer
      have hsome : registry.findOrigin? result.unwrap = some b := by
        rw [Registry.findOrigin?_unwrap hflat, hcontainer]
      have hactual : result.unwrap.typeArg? b.valueArg = some (.entityOf s) := by
        rw [Hint.typeArg?_unwrap hflat]
        exact harg.elim id id
      have hchoice : choose registry (some b) (.entityOf s) = .ok (streamChoice s a) :=
        choose_entityOf_stream (by simpa using hcarries) hs hmulti
      simp only [compile_eq, hsome, actualHint, hactual, Except.bind, hchoice]
      rfl

/-! ## The type of the elements -/

theorem Chosen.bodyType_of_streams {returnAdapter : Option Adapter} {actual : Hint} {c : Choice}
    (h : Chosen registry returnAdapter actual (.ok c)) (hop : c.operation = .bodyFlux) :
    c.bodyType = actual := by
  cases h with
  | void _ => cases hop
  | headers _ _ => cases hop
  | entity _ _ hx => cases hx <;> cases hop
  | body _ _ _ => rfl

/-- A stream that is declared alone has elements of the type that its adapter names. -/
theorem bodyType_of_stream {p : Plan} {blockTimeout : Value} (hs : registry.findOrigin? s = some a)
    (hp : compile s registry blockTimeout = .ok p) (hop : p.operation = .bodyFlux) :
    s.typeArg? a.valueArg = some p.bodyType := by
  have hflat := Registry.flat_of_findOrigin? hs
  obtain ⟨actual, c, hactual, hc, rfl⟩ := compile_eq_ok_iff.mp hp
  rw [Registry.findOrigin?_unwrap hflat, hs, actualHint, Hint.typeArg?_unwrap hflat] at hactual
  cases hvalue : s.typeArg? a.valueArg with
  | none =>
      rw [hvalue] at hactual
      cases hactual
  | some value =>
      rw [hvalue] at hactual
      cases hactual
      exact congrArg some (hc.bodyType_of_streams hop).symm

/-- A stream means the same elements alone and inside an entity exactly when its adapter names the first
type argument, and the stream is not the absent value. -/
theorem elementType_entity_iff {p : Plan} {blockTimeout : Value}
    (hentity : registry.find? .responseEntity = none) (hs : registry.findOrigin? s = some a)
    (hmulti : a.multiValue = true) (hp : compile s registry blockTimeout = .ok p)
    (hop : p.operation = .bodyFlux) :
    ∃ q, compile (.entityOf s) registry blockTimeout = .ok q ∧
      (q.operation = .entityFlux ∧ q.bodyType = p.bodyType ↔
        s.unwrap.isVoid = false ∧ s.typeArg? a.valueArg = some s.firstArg) := by
  refine ⟨_, compile_of_declaresEntity (.alone hentity) hs hmulti blockTimeout, ?_⟩
  rw [bodyType_of_stream hs hp hop]
  show (streamChoice s a).operation = _ ∧ (streamChoice s a).bodyType = _ ↔ _
  rw [streamChoice_operation_iff]
  refine and_congr_right fun hvoid => ?_
  simp only [streamChoice, hvoid, Bool.false_eq_true, if_false, Option.some_inj, eq_comm]

/-- A generator serves as the stream that it is, with its first argument for the elements in both places. -/
theorem elementType_entity_generator :
    let stream := Hint.genericOf .asyncGenerator [.cls .int, .cls .str]
    ∃ p q, compile stream .default (.int 5) = .ok p ∧ p.operation = .bodyFlux ∧
      compile (.entityOf stream) .default (.int 5) = .ok q ∧ q.operation = .entityFlux ∧
        q.bodyType = p.bodyType := by
  intro stream
  let a : Adapter := { container := .asyncIterator, multiValue := true, native := .asyncIterator }
  have hs : Registry.default.findOrigin? stream = some a := by rfl
  have hp : compile stream .default (.int 5) = .ok
      { operation := .bodyFlux, bodyType := .cls .int, returnAdapter := some a, blockTimeout := .int 5 } := by
    rfl
  obtain ⟨q, hq, hiff⟩ := elementType_entity_iff (by rfl) hs rfl hp rfl
  exact ⟨_, q, hp, rfl, hq, hiff.mpr ⟨rfl, rfl⟩⟩

/-- With an adapter that names the second argument, a generator has other elements inside an entity than
alone. -/
theorem elementType_entity_second_argument :
    let a : Adapter :=
      { container := .asyncGenerator, multiValue := true, native := .asyncIterator, valueArg := 1 }
    let registry := Registry.default.register a
    let stream := Hint.genericOf .asyncGenerator [.cls .int, .cls .str]
    registry.find? .responseEntity = none ∧ registry.findOrigin? stream = some a ∧
      ∃ p q, compile stream registry (.int 5) = .ok p ∧ p.operation = .bodyFlux ∧
        compile (.entityOf stream) registry (.int 5) = .ok q ∧ q.operation = .entityFlux ∧
          q.bodyType ≠ p.bodyType := by
  intro a registry stream
  refine ⟨by rfl, by rfl, _, _, by rfl, rfl, by rfl, rfl, ?_⟩
  show Hint.cls .int ≠ Hint.cls .str
  intro h
  exact absurd (Hint.cls.inj h) (by decide)

end Plan

end HttpContract
