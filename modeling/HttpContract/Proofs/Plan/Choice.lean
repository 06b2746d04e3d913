import HttpContract.Plan

/-!
# The choice of a plan

`Chosen` states the rules of the choice one by one, each with all that has to hold for it. The choice
follows the rules, and every compiled plan is well formed by them.
-/

namespace HttpContract.Plan

/-! ## The rules -/

/-- A result that carries a value, inside the return adapter if there is one. -/
def CarriesValue (returnAdapter : Option Adapter) (actual : Hint) : Prop :=
  actual.isVoid = false ∧ returnAdapter.any (·.noValue) = false

/-- The rules for the entity with a body of a given hint. -/
inductive EntityChosen (registry : Registry) (body : Hint) : Except Error Choice → Prop where
  | bodiless (hbody : body.isVoid = true) :
      EntityChosen registry body (.ok { operation := .bodilessEntity })
  | whole (hbody : body.isVoid = false) (hfind : registry.findOrigin? body = none) :
      EntityChosen registry body (.ok { operation := .entity, bodyType := body })
  | singleValue {a : Adapter} (hbody : body.isVoid = false)
      (hfind : registry.findOrigin? body = some a) (ha : a.multiValue = false) :
      EntityChosen registry body (.error (.singleValueBody a.name))
  | streamed {a : Adapter} (hbody : body.isVoid = false)
      (hfind : registry.findOrigin? body = some a) (ha : a.multiValue = true) :
      EntityChosen registry body (.ok
        { operation := .entityFlux
          bodyType := body.firstArg
          bodyAdapter := if a.native = .asyncIterator then none else some a })

/-- The rules for a result of a given hint inside an optional return adapter. -/
inductive Chosen (registry : Registry) (returnAdapter : Option Adapter) (actual : Hint) :
    Except Error Choice → Prop where
  | void (hvalue : ¬CarriesValue returnAdapter actual) :
      Chosen registry returnAdapter actual (.ok { operation := .void })
  | headers (hvalue : CarriesValue returnAdapter actual) (hclass : actual.rawClass? = some .headers) :
      Chosen registry returnAdapter actual (.ok { operation := .headers })
  | entity {x : Except Error Choice} (hvalue : CarriesValue returnAdapter actual)
      (hclass : actual.rawClass? = some .responseEntity) (hx : EntityChosen registry actual.firstArg x) :
      Chosen registry returnAdapter actual x
  | body (hvalue : CarriesValue returnAdapter actual) (hheaders : actual.rawClass? ≠ some .headers)
      (hentity : actual.rawClass? ≠ some .responseEntity) :
      Chosen registry returnAdapter actual (.ok
        { operation := if returnAdapter.any (·.multiValue) then .bodyFlux else .body
          bodyType := actual })

variable {registry : Registry} {returnAdapter : Option Adapter} {actual body : Hint}
  {x : Except Error Choice} {c : Choice}

/-! ## The choice follows the rules -/

theorem entityChosen_chooseEntity (registry : Registry) (body : Hint) :
    EntityChosen registry body (chooseEntity registry body) := by
  unfold chooseEntity
  cases hbody : body.isVoid with
  | true => exact .bodiless hbody
  | false =>
      cases hfind : registry.findOrigin? body with
      | none => exact .whole hbody hfind
      | some a =>
          cases ha : a.multiValue with
          | false => simpa [ha] using EntityChosen.singleValue hbody hfind ha
          | true => simpa [ha] using EntityChosen.streamed hbody hfind ha

theorem EntityChosen.eq_chooseEntity (h : EntityChosen registry body x) :
    chooseEntity registry body = x := by
  cases h with
  | bodiless hbody => simp [chooseEntity, hbody]
  | whole hbody hfind => simp [chooseEntity, hbody, hfind]
  | singleValue hbody hfind ha => simp [chooseEntity, hbody, hfind, ha]
  | streamed hbody hfind ha => simp [chooseEntity, hbody, hfind, ha]

theorem carriesValue_iff :
    CarriesValue returnAdapter actual ↔
      (actual.isVoid || returnAdapter.any (·.noValue)) = false := by
  simp [CarriesValue]

theorem headers_ne_responseEntity : Class.headers ≠ Class.responseEntity := by decide

theorem chosen_choose (registry : Registry) (returnAdapter : Option Adapter) (actual : Hint) :
    Chosen registry returnAdapter actual (choose registry returnAdapter actual) := by
  unfold choose
  split
  · rename_i hguard
    exact .void (by simp [carriesValue_iff, hguard])
  · rename_i hguard
    have hvalue : CarriesValue returnAdapter actual := by simpa [carriesValue_iff] using hguard
    cases hclass : actual.rawClass? with
    | none => exact .body hvalue (by simp [hclass]) (by simp [hclass])
    | some k =>
        by_cases hheaders : k = .headers
        · subst hheaders
          exact .headers hvalue hclass
        · by_cases hentity : k = .responseEntity
          · subst hentity
            exact .entity hvalue hclass (entityChosen_chooseEntity registry actual.firstArg)
          · simp only [if_neg hheaders, if_neg hentity]
            exact .body hvalue (by simp [hclass, hheaders]) (by simp [hclass, hentity])

theorem Chosen.eq_choose (h : Chosen registry returnAdapter actual x) :
    choose registry returnAdapter actual = x := by
  cases h with
  | void hvalue =>
      rw [carriesValue_iff, Bool.not_eq_false] at hvalue
      simp only [choose, hvalue, if_true]
  | headers hvalue hclass =>
      simp [choose, carriesValue_iff.mp hvalue, hclass]
  | entity hvalue hclass hx =>
      simp [choose, carriesValue_iff.mp hvalue, hclass, headers_ne_responseEntity.symm,
        hx.eq_chooseEntity]
  | body hvalue hheaders hentity =>
      cases hclass : actual.rawClass? with
      | none => simp [choose, carriesValue_iff.mp hvalue, hclass, choose.bodyChoice]
      | some k =>
          simp [choose, carriesValue_iff.mp hvalue, hclass, choose.bodyChoice,
            ne_of_apply_ne some (hclass ▸ hheaders), ne_of_apply_ne some (hclass ▸ hentity)]

/-- The choice is what the rules give. -/
theorem choose_eq_iff_chosen :
    choose registry returnAdapter actual = x ↔ Chosen registry returnAdapter actual x := by
  constructor
  · intro h
    exact h ▸ chosen_choose registry returnAdapter actual
  · exact Chosen.eq_choose

/-! ## Compiled plans -/

/-- The plan that a choice makes. -/
def ofChoice (returnAdapter : Option Adapter) (optional : Bool) (blockTimeout : Value) (c : Choice) :
    Plan where
  operation := c.operation
  bodyType := c.bodyType
  returnAdapter
  bodyAdapter := c.bodyAdapter
  blockForOptional := optional
  blockTimeout
  liftsSingle := returnAdapter.any (·.multiValue) && c.operation != .bodyFlux

theorem compile_eq (result : Hint) (registry : Registry) (blockTimeout : Value) :
    compile result registry blockTimeout =
      let returnAdapter := registry.findOrigin? result.unwrap
      (actualHint returnAdapter result.unwrap).bind fun actual =>
        (choose registry returnAdapter actual.1).map (ofChoice returnAdapter actual.2 blockTimeout) := by
  simp only [compile]
  cases actualHint (registry.findOrigin? result.unwrap) result.unwrap with
  | error e => rfl
  | ok actual =>
      simp only [bind, Except.bind]
      generalize choose registry _ _ = x
      cases x <;> rfl

theorem compile_eq_ok_iff {result : Hint} {blockTimeout : Value} {p : Plan} :
    compile result registry blockTimeout = .ok p ↔
      ∃ actual c, actualHint (registry.findOrigin? result.unwrap) result.unwrap = .ok actual ∧
        Chosen registry (registry.findOrigin? result.unwrap) actual.1 (.ok c) ∧
        ofChoice (registry.findOrigin? result.unwrap) actual.2 blockTimeout c = p := by
  rw [compile_eq]
  simp only [← choose_eq_iff_chosen]
  cases actualHint (registry.findOrigin? result.unwrap) result.unwrap with
  | error e => simp [Except.bind]
  | ok actual =>
      cases hc : choose registry (registry.findOrigin? result.unwrap) actual.1 with
      | error e => simp [Except.bind, Except.map, hc]
      | ok c => simp [Except.bind, Except.map, hc]

/-- How the parts of a plan fit together. -/
structure WellFormed (p : Plan) : Prop where
  /-- Only the streamed body of an entity is converted. -/
  rewraps : ∀ a, p.bodyAdapter = some a → p.operation = .entityFlux ∧ a.multiValue = true
  /-- A streamed body is only asked for where several values are wanted. -/
  streams : p.operation = .bodyFlux → p.returnAdapter.any (·.multiValue) = true
  /-- A single answer is lifted exactly where several values are wanted of it. -/
  lifts : p.liftsSingle = true ↔
    p.returnAdapter.any (·.multiValue) = true ∧ p.operation ≠ .bodyFlux
  optional : p.blockForOptional = true → p.returnAdapter = none

theorem Chosen.rewraps (h : Chosen registry returnAdapter actual (.ok c)) :
    ∀ a, c.bodyAdapter = some a → c.operation = .entityFlux ∧ a.multiValue = true := by
  intro b hb
  cases h with
  | void _ => cases hb
  | headers _ _ => cases hb
  | body _ _ _ => cases hb
  | entity _ _ hx =>
      cases hx with
      | bodiless _ => cases hb
      | whole _ _ => cases hb
      | streamed _ _ ha =>
          split at hb
          · cases hb
          · cases hb
            exact ⟨rfl, ha⟩

theorem Chosen.streams (h : Chosen registry returnAdapter actual (.ok c))
    (hop : c.operation = .bodyFlux) : returnAdapter.any (·.multiValue) = true := by
  cases h with
  | void _ => cases hop
  | headers _ _ => cases hop
  | entity _ _ hx => cases hx <;> cases hop
  | body _ _ _ =>
      by_cases hmulti : returnAdapter.any (·.multiValue) = true
      · exact hmulti
      · simp only [if_neg hmulti] at hop
        cases hop

theorem actualHint_optional {declared actual : Hint}
    (h : actualHint returnAdapter declared = .ok (actual, true)) : returnAdapter = none := by
  cases returnAdapter with
  | none => rfl
  | some a =>
      simp only [actualHint] at h
      split at h <;> cases h

theorem compile_wellFormed {result : Hint} {blockTimeout : Value} {p : Plan}
    (h : compile result registry blockTimeout = .ok p) : p.WellFormed := by
  obtain ⟨⟨actual, optional⟩, c, hactual, hc, rfl⟩ := compile_eq_ok_iff.mp h
  refine ⟨hc.rewraps, hc.streams, by simp [ofChoice], fun hoptional => ?_⟩
  cases hoptional
  exact actualHint_optional hactual

end HttpContract.Plan
