import HttpContract.Proofs.Plan.Place

/-!
# Annotated results

Annotations on a result, on the value of a container, on the body of an entity, on the elements of a stream
and on the member of an optional hint leave the plan as it is (`ignoresAnnotations`). The absent value is no
class by itself and stands for its class under annotations, so that an adapter for its class, or the type of
streamed elements, can tell the two apart.
-/

namespace HttpContract

/-! ## Hints under annotations -/

namespace Hint

variable {h x : Hint}

theorem unwrap_annotate (h : Hint) (ms : List Marker) : (h.annotate ms).unwrap = h.asClass.unwrap := by
  cases h <;> rfl

theorem asClass_annotate (h : Hint) (ms : List Marker) : (h.annotate ms).asClass = h.annotate ms := by
  cases h <;> rfl

theorem asClass_of_ne (hne : h ≠ .nothing) : h.asClass = h := by
  cases h with
  | nothing => exact absurd rfl hne
  | _ => rfl

theorem firstArg_genericOf (c : Class) (x : Hint) (xs : List Hint) :
    (genericOf c (x :: xs)).firstArg = if c.takesHints then x.asClass.unwrap else x.unwrap := by
  have hargs : (genericOf c (x :: xs)).args = if c.takesHints then (x :: xs).map asClass else x :: xs := rfl
  have hfirst {y : Hint} (hy : (genericOf c (x :: xs)).args[0]? = some y) :
      (genericOf c (x :: xs)).firstArg = y.unwrap := by
    have harg := typeArg?_of_args (i := 0) hy
    exact congrArg (·.getD any) harg
  cases hc : c.takesHints with
  | false => exact hfirst (by simp [hargs, hc])
  | true => exact hfirst (by simp [hargs, hc])

theorem same_void (h : Hint) : h.same void = h.isVoidClass := by
  cases h with
  | cls c =>
      rw [void, same, isVoidClass]
      rfl
  | _ => simp [same, void, isVoidClass]

/-- An optional hint, unless it is made of the absent value or of a union. -/
theorem unionOf_nothing (hvoid : x.isVoid = false) (hunion : ∀ barred ms, x ≠ .union barred ms) :
    unionOf false [x, .nothing] = .union false [x, void] := by
  have hmembers : x.members = [x] := by
    cases x with
    | nothing => cases hvoid
    | union barred ms => exact absurd rfl (hunion barred ms)
    | _ => rfl
  have hsame : x.same void = false := by
    rw [same_void]
    cases x <;> first | rfl | exact hvoid
  have hdistinct : distinct [x, void] = [x, void] := by
    simp [distinct, hsame]
  have hflat : [x, .nothing].flatMap members = [x, void] := by
    rw [List.flatMap_cons, hmembers]
    rfl
  rw [unionOf, hflat, hdistinct]

end Hint

namespace Plan

variable {registry : Registry} {h result value body : Hint} {a : Adapter} {blockTimeout : Value}

/-! ## Each place of an annotation -/

theorem compile_nothing (registry : Registry) (blockTimeout : Value) :
    compile .nothing registry blockTimeout =
      .ok (ofChoice none false blockTimeout { operation := .void }) := by
  rw [compile_eq]
  rfl

theorem compile_annotate (registry : Registry) (blockTimeout : Value) (h : Hint) (ms : List Marker) :
    compile (h.annotate ms) registry blockTimeout = compile h.asClass registry blockTimeout :=
  compile_of_unwrap_eq (Hint.unwrap_annotate h ms)

/-- The absent value stands for its class where the class has no adapter. -/
theorem compile_asClass_iff :
    compile h.asClass registry blockTimeout = compile h registry blockTimeout ↔
      (h = .nothing → registry.find? .void = none) := by
  constructor
  · rintro heq rfl
    rw [compile_nothing] at heq
    exact (returnAdapter_of_compile heq).symm
  · intro hvoid
    by_cases hnothing : h = .nothing
    · subst hnothing
      have hnone : registry.findOrigin? Hint.void.unwrap = none := hvoid rfl
      rw [compile_nothing, Hint.asClass, compile_of_no_adapter hnone]
      rfl
    · rw [Hint.asClass_of_ne hnothing]

theorem compile_annotated_value {container container' : Hint} {ms : List Marker}
    (hvalue : Declares registry value (some a) container)
    (hvalue' : Declares registry (value.annotate ms) (some a) container') :
    compile container' registry blockTimeout = compile container registry blockTimeout := by
  cases hvalue with
  | inside hcontainer harg =>
      cases hvalue' with
      | inside hcontainer' harg' =>
          rw [compile_of_container hcontainer harg, compile_of_container hcontainer' harg',
            Hint.asClass_annotate, Hint.unwrap_annotate]

theorem compile_annotated_body {place : Option Adapter} {result' : Hint} {ms : List Marker}
    (hentity : LeavesEntities registry place) (hbody : Declares registry (.entityOf body) place result)
    (hbody' : Declares registry (.entityOf (body.annotate ms)) place result') :
    compile result' registry blockTimeout = compile result registry blockTimeout := by
  rw [compile_of_declares_entity hentity hbody, compile_of_declares_entity hentity hbody',
    choose_entityOf, choose_entityOf, Hint.asClass_annotate, Hint.unwrap_annotate]

theorem compile_of_declares_stream {place : Option Adapter} {s : Hint}
    (hentity : LeavesEntities registry place) (hs : registry.findOrigin? s = some a)
    (hmulti : a.multiValue = true) (hresult : Declares registry (.entityOf s) place result)
    (blockTimeout : Value) :
    compile result registry blockTimeout = .ok (ofChoice place false blockTimeout
      (if place.any (·.noValue) then { operation := .void } else streamChoice s a)) := by
  rw [compile_of_declares_entity hentity hresult, choose_entityOf, Registry.asClass_of_findOrigin? hs,
    chooseEntity_of_stream hs hmulti]
  cases place.any (·.noValue) <;> rfl

/-- Two plans differ at most in how the absent value stands for the type of the body. -/
def AlikeUpToVoid (p q : Plan) : Prop :=
  q.bodyType.asClass = p.bodyType.asClass ∧ q = { p with bodyType := q.bodyType }

theorem firstArg_annotate (c : Class) (x : Hint) (xs : List Hint) (ms : List Marker) :
    (Hint.genericOf c (x.annotate ms :: xs)).firstArg = x.asClass.unwrap := by
  rw [Hint.firstArg_genericOf, Hint.asClass_annotate, Hint.unwrap_annotate, ite_self]

theorem firstArg_annotate_eq {c : Class} {x : Hint} (hx : x = .nothing → c.takesHints = true)
    (xs : List Hint) (ms : List Marker) :
    (Hint.genericOf c (x.annotate ms :: xs)).firstArg = (Hint.genericOf c (x :: xs)).firstArg := by
  rw [firstArg_annotate, Hint.firstArg_genericOf]
  by_cases hnothing : x = .nothing
  · rw [hx hnothing, if_pos rfl]
  · rw [Hint.asClass_of_ne hnothing, ite_self]

theorem compile_annotated_element {place : Option Adapter} {c : Class} {x result' : Hint} {xs : List Hint}
    {ms : List Marker} (hentity : LeavesEntities registry place) (hc : registry.find? c = some a)
    (hmulti : a.multiValue = true)
    (hresult : Declares registry (.entityOf (.genericOf c (x :: xs))) place result)
    (hresult' : Declares registry (.entityOf (.genericOf c (x.annotate ms :: xs))) place result')
    (blockTimeout : Value) :
    ∃ p q, compile result registry blockTimeout = .ok p ∧ compile result' registry blockTimeout = .ok q ∧
      AlikeUpToVoid p q ∧ ((x = .nothing → c.takesHints = true) → q = p) := by
  have hs : registry.findOrigin? (.genericOf c (x :: xs)) = some a := hc
  have hs' : registry.findOrigin? (.genericOf c (x.annotate ms :: xs)) = some a := hc
  refine ⟨_, _, compile_of_declares_stream hentity hs hmulti hresult blockTimeout,
    compile_of_declares_stream hentity hs' hmulti hresult' blockTimeout, ?_⟩
  cases place.any (·.noValue) with
  | true => exact ⟨⟨rfl, rfl⟩, fun _ => rfl⟩
  | false =>
      refine ⟨⟨?_, rfl⟩, fun hx => ?_⟩
      · show (Hint.genericOf c (x.annotate ms :: xs)).firstArg.asClass =
          (Hint.genericOf c (x :: xs)).firstArg.asClass
        rw [firstArg_annotate, Hint.firstArg_genericOf]
        cases c.takesHints with
        | true => rfl
        | false => cases x <;> rfl
      · have hchoice : streamChoice (.genericOf c (x.annotate ms :: xs)) a =
            streamChoice (.genericOf c (x :: xs)) a := by
          show Choice.mk _ _ _ = Choice.mk _ _ _
          rw [firstArg_annotate_eq hx xs ms]
        exact congrArg (ofChoice place false blockTimeout) hchoice

theorem compile_optional {x : Hint} (hvoid : x.isVoid = false)
    (hunion : ∀ barred members, x ≠ .union barred members) (blockTimeout : Value) :
    compile (.unionOf false [x, .nothing]) registry blockTimeout =
      (choose registry none x.unwrap).map (ofChoice none true blockTimeout) := by
  have hmember : x.isVoidClass = false := by
    cases x <;> first | rfl | exact hvoid
  have hnone : registry.findOrigin? (Hint.union false [x, .void]).unwrap = none := rfl
  have hoptional : (Hint.union false [x, .void]).optional = (x, true) := by
    simp only [Hint.optional, hmember]
    rfl
  have hunwrap : (Hint.union false [x, .void]).unwrap = .union false [x, .void] := rfl
  rw [Hint.unionOf_nothing hvoid hunion, compile_of_no_adapter hnone, hunwrap, hoptional]

theorem compile_annotated_member {x : Hint} (hvoid : x.isVoid = false)
    (hunion : ∀ barred members, x ≠ .union barred members) (ms : List Marker) :
    compile (.unionOf false [x.annotate ms, .nothing]) registry blockTimeout =
      compile (.unionOf false [x, .nothing]) registry blockTimeout := by
  have hvoid' : (x.annotate ms).isVoid = false := by
    cases x <;> rfl
  have hunion' : ∀ barred members, x.annotate ms ≠ .union barred members := by
    intro barred members
    cases x <;> exact Hint.noConfusion
  have hne : x ≠ .nothing := by
    rintro rfl
    cases hvoid
  rw [compile_optional hvoid hunion, compile_optional hvoid' hunion', Hint.unwrap_annotate,
    Hint.asClass_of_ne hne]

/-! ## All places -/

/-- Where annotations make no difference to a plan. -/
structure IgnoresAnnotations (registry : Registry) (blockTimeout : Value) (ms : List Marker) : Prop where
  /-- On a whole result; the absent value alone is no class, and has no adapter. -/
  result_iff : ∀ h, compile (h.annotate ms) registry blockTimeout = compile h registry blockTimeout ↔
    (h = .nothing → registry.find? .void = none)
  value : ∀ value {container container' a}, Declares registry value (some a) container →
    Declares registry (value.annotate ms) (some a) container' →
      compile container' registry blockTimeout = compile container registry blockTimeout
  body : ∀ body {result result' place}, LeavesEntities registry place →
    Declares registry (.entityOf body) place result →
    Declares registry (.entityOf (body.annotate ms)) place result' →
      compile result' registry blockTimeout = compile result registry blockTimeout
  /-- On the elements of a stream in an entity; a class may keep the absent value as it is written. -/
  element : ∀ c x xs {result result' place a}, LeavesEntities registry place →
    registry.find? c = some a → a.multiValue = true →
    Declares registry (.entityOf (.genericOf c (x :: xs))) place result →
    Declares registry (.entityOf (.genericOf c (x.annotate ms :: xs))) place result' →
      ∃ p q, compile result registry blockTimeout = .ok p ∧
        compile result' registry blockTimeout = .ok q ∧ AlikeUpToVoid p q ∧
          ((x = .nothing → c.takesHints = true) → q = p)
  member : ∀ x, x.isVoid = false → (∀ barred members, x ≠ .union barred members) →
    compile (.unionOf false [x.annotate ms, .nothing]) registry blockTimeout =
      compile (.unionOf false [x, .nothing]) registry blockTimeout

/-- Annotations leave plans as they are, but for the absent value, which becomes its class under them. -/
theorem ignoresAnnotations (registry : Registry) (blockTimeout : Value) (ms : List Marker) :
    IgnoresAnnotations registry blockTimeout ms where
  result_iff h := by rw [compile_annotate, compile_asClass_iff]
  value _ _ _ _ hvalue hvalue' := compile_annotated_value hvalue hvalue'
  body _ _ _ _ hentity hbody hbody' := compile_annotated_body hentity hbody hbody'
  element _ _ _ _ _ _ _ hentity hc hmulti hresult hresult' :=
    compile_annotated_element hentity hc hmulti hresult hresult' blockTimeout
  member _ hvoid hunion := compile_annotated_member hvoid hunion ms

/-- Header fields in a future, and the elements of an iterator in the entity that a coroutine yields. -/
theorem ignoresAnnotations_in_containers :
    let future (value : Hint) := Hint.genericOf .future [value]
    let coroutine (x : Hint) := Hint.genericOf .coroutine [.any, .any, .entityOf (.genericOf .iterator [x])]
    let ms := [Marker.text "shown"]
    compile (future (.annotate (.cls .headers) ms)) .default (.int 5) =
        compile (future (.cls .headers)) .default (.int 5) ∧
      compile (coroutine (.annotate (.cls .str) ms)) .default (.int 5) =
        compile (coroutine (.cls .str)) .default (.int 5) := by
  intro future coroutine ms
  have hignores := ignoresAnnotations .default (.int 5) ms
  have hfuture (x : Hint) : Declares .default x (some { container := .future, conversion := .future })
      (future x) :=
    .inside (by rfl) (Hint.hasTypeArg_genericOf (i := 0) rfl)
  have hcoroutine (x : Hint) : Declares .default (.entityOf (.genericOf .iterator [x]))
      (some { container := .coroutine, valueArg := 2, conversion := .coroutine }) (coroutine x) :=
    .inside (by rfl) (Hint.hasTypeArg_genericOf (i := 2) rfl)
  refine ⟨hignores.value (.cls .headers) (hfuture _) (hfuture _), ?_⟩
  have hentity : LeavesEntities .default
      (some { container := .coroutine, valueArg := 2, conversion := .coroutine }) :=
    fun hplace => nomatch hplace
  obtain ⟨p, q, hp, hq, -, heq⟩ := hignores.element .iterator (.cls .str) [] hentity (by rfl) rfl
    (hcoroutine _) (hcoroutine _)
  rw [hp, hq, heq (fun hnothing => nomatch hnothing)]

/-- With an adapter for its class the absent value is told from its class as a result, and without one as the
element of a stream. -/
theorem compile_annotated_absent :
    let ms := [Marker.text "shown"]
    let registry := Registry.default.register { container := .void }
    let stream (x : Hint) := Hint.entityOf (.genericOf .asyncIterator [x])
    compile (.annotate .nothing ms) registry (.int 5) ≠ compile .nothing registry (.int 5) ∧
      compile (stream (.annotate .nothing ms)) .default (.int 5) ≠
        compile (stream .nothing) .default (.int 5) := by
  intro ms registry stream
  constructor
  · intro h
    rw [compile_annotate, compile_asClass_iff] at h
    exact absurd (h rfl) (by decide)
  · intro h
    have hbody := congrArg (fun x => x.toOption.map (·.bodyType)) h
    exact absurd (Option.some.inj hbody) Hint.noConfusion

end Plan

end HttpContract
