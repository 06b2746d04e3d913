import HttpContract.Proofs.Plan.Place

/-!
# Containers of a single value

A container of a single value asks the transport for what its value alone asks for, with one exception: an
optional hint stands for its member only where no container is around it. Inside one it is a plain body,
also when its member has an operation of its own (`OwnOperation`).
-/

namespace HttpContract

namespace Hint

variable {h : Hint}

theorem optional_fst_of_not_optional (hh : h.optional.2 = false) : h.optional.1 = h := by
  revert hh
  fun_cases optional h <;> simp

theorem exists_union_of_optional (hh : h.optional.2 = true) :
    ∃ barred members, h = .union barred members := by
  cases h with
  | union barred members => exact ⟨barred, members, rfl⟩
  | _ => cases hh

end Hint

namespace Plan

variable {registry : Registry} {h container value : Hint} {a : Adapter}

/-! ## Operations -/

/-- The operation of the plan for a declared result. -/
def operationFor (result : Hint) (registry : Registry) (blockTimeout : Value) :
    Except Error Operation :=
  (compile result registry blockTimeout).map Plan.operation

/-- The operation for a result that no container is around. -/
def plainOperation (registry : Registry) (h : Hint) : Except Error Operation :=
  (choose registry none h).map Choice.operation

/-- The adapter of a single value does not bear on the choice. -/
theorem choose_of_single (hsingle : a.multiValue = false) (hvalue : a.noValue = false) :
    choose registry (some a) h = choose registry none h := by
  simp [choose, choose.bodyChoice, hsingle, hvalue]

/-! ## Hints with an operation of their own -/

/-- No value, header fields and entities have an operation of their own. -/
def HasOwnOperation (h : Hint) : Prop :=
  h.isVoid = true ∨ h.rawClass? = some .headers ∨ h.rawClass? = some .responseEntity

/-- That operation; for an entity its body settles which it is, and whether there is one. -/
inductive OwnOperation (registry : Registry) (h : Hint) : Except Error Operation → Prop where
  | void (hvoid : h.isVoid = true) : OwnOperation registry h (.ok .void)
  | headers (hclass : h.rawClass? = some .headers) : OwnOperation registry h (.ok .headers)
  | bodiless (hclass : h.rawClass? = some .responseEntity) (hbody : h.firstArg.isVoid = true) :
      OwnOperation registry h (.ok .bodilessEntity)
  | whole (hclass : h.rawClass? = some .responseEntity) (hbody : h.firstArg.isVoid = false)
      (hfind : registry.findOrigin? h.firstArg = none) : OwnOperation registry h (.ok .entity)
  | streamed {a : Adapter} (hclass : h.rawClass? = some .responseEntity)
      (hbody : h.firstArg.isVoid = false) (hfind : registry.findOrigin? h.firstArg = some a)
      (ha : a.multiValue = true) : OwnOperation registry h (.ok .entityFlux)
  | singleValue {a : Adapter} (hclass : h.rawClass? = some .responseEntity)
      (hbody : h.firstArg.isVoid = false) (hfind : registry.findOrigin? h.firstArg = some a)
      (ha : a.multiValue = false) : OwnOperation registry h (.error (.singleValueBody a.name))

theorem OwnOperation.ne_body {x : Except Error Operation} (h : OwnOperation registry value x) :
    x ≠ .ok .body := by
  cases h <;> simp

theorem ownOperation_plainOperation (hown : HasOwnOperation h) :
    OwnOperation registry h (plainOperation registry h) := by
  have hchosen := chosen_choose registry none h
  unfold plainOperation
  generalize choose registry none h = x at hchosen
  cases hchosen with
  | void hvalue => exact .void (by simpa [CarriesValue] using hvalue)
  | headers _ hclass => exact .headers hclass
  | entity _ hclass hentity =>
      cases hentity with
      | bodiless hbody => exact .bodiless hclass hbody
      | whole hbody hfind => exact .whole hclass hbody hfind
      | singleValue hbody hfind ha => exact .singleValue hclass hbody hfind ha
      | streamed hbody hfind ha => exact .streamed hclass hbody hfind ha
  | body hvalue hheaders hentity =>
      rcases hown with hvoid | hclass | hclass
      · exact absurd (hvalue.1.symm.trans hvoid) Bool.false_ne_true
      · exact absurd hclass hheaders
      · exact absurd hclass hentity

theorem plainOperation_of_body (hown : ¬HasOwnOperation h) : plainOperation registry h = .ok .body := by
  have hchosen := chosen_choose registry none h
  unfold plainOperation
  generalize choose registry none h = x at hchosen
  cases hchosen with
  | void hvalue => exact absurd (.inl (by simpa [CarriesValue] using hvalue)) hown
  | headers _ hclass => exact absurd (.inr (.inl hclass)) hown
  | entity _ hclass _ => exact absurd (.inr (.inr hclass)) hown
  | body _ _ _ => rfl

theorem not_hasOwnOperation_union (barred : Bool) (members : List Hint) :
    ¬HasOwnOperation (.union barred members) := by
  have hclass : (Hint.union barred members).rawClass? = if barred then some .unionType else none := by
    cases barred <;> rfl
  rintro (hvoid | hheaders | hentity)
  · cases hvoid
  · revert hheaders
    rw [hclass]
    cases barred <;> decide
  · revert hentity
    rw [hclass]
    cases barred <;> decide

/-- An optional hint whose member has an operation of its own. -/
def HidesOperation (h : Hint) : Prop :=
  h.unwrap.optional.2 = true ∧ HasOwnOperation h.unwrap.optional.1.unwrap

theorem plainOperation_of_optional (hoptional : h.unwrap.optional.2 = true) :
    plainOperation registry h.unwrap = .ok .body := by
  obtain ⟨barred, members, hunion⟩ := Hint.exists_union_of_optional hoptional
  rw [hunion]
  exact plainOperation_of_body (not_hasOwnOperation_union barred members)

/-- Unless it hides an operation, a hint asks for what its member asks for. -/
theorem plainOperation_member (hflat : h.Flat) (hhides : ¬HidesOperation h) :
    plainOperation registry h.unwrap = plainOperation registry h.unwrap.optional.1.unwrap := by
  cases hoptional : h.unwrap.optional.2 with
  | false => rw [Hint.optional_fst_of_not_optional hoptional, hflat]
  | true =>
      have hmember : ¬HasOwnOperation h.unwrap.optional.1.unwrap := fun hown =>
        hhides ⟨hoptional, hown⟩
      rw [plainOperation_of_optional hoptional, plainOperation_of_body hmember]

/-! ## Inside and outside of a container -/

/-- Outside of a container the member of an optional hint is looked at. -/
theorem operationFor_of_no_adapter (hflat : value.Flat)
    (hvalue : registry.findOrigin? value = none) (blockTimeout : Value) :
    operationFor value registry blockTimeout =
      plainOperation registry value.unwrap.optional.1.unwrap := by
  rw [← Registry.findOrigin?_unwrap hflat] at hvalue
  rw [operationFor, compile_of_no_adapter hvalue, plainOperation]
  cases choose registry none value.unwrap.optional.1.unwrap <;> rfl

theorem operationFor_of_container (hcontainer : registry.findOrigin? container = some a)
    (hsingle : a.multiValue = false) (hvalue : a.noValue = false)
    (harg : container.HasTypeArg a.valueArg value) (blockTimeout : Value) :
    operationFor container registry blockTimeout = plainOperation registry value.unwrap := by
  rw [operationFor, compile_of_container hcontainer harg, ← choose_asClass_unwrap,
    choose_of_single hsingle hvalue, plainOperation]
  cases choose registry none value.unwrap <;> rfl

/-- Alone, a hint that has an operation of its own asks for that, unless its class has an adapter. -/
theorem operationFor_of_own (hflat : h.Flat) (hown : HasOwnOperation h.unwrap)
    (hfind : registry.findOrigin? h = none) (blockTimeout : Value) :
    operationFor h registry blockTimeout = plainOperation registry h.unwrap := by
  have hoptional : h.unwrap.optional.2 = false := by
    rw [Bool.eq_false_iff]
    intro hoptional
    obtain ⟨barred, members, hunion⟩ := Hint.exists_union_of_optional hoptional
    exact not_hasOwnOperation_union barred members (hunion ▸ hown)
  rw [operationFor_of_no_adapter hflat hfind, Hint.optional_fst_of_not_optional hoptional, hflat]

/-- A container of a single value asks for what its value asks for, unless that is optional and its member
has an operation of its own. Then the container asks for a body, and the value alone asks for the operation
of the member or is refused as the member is, which is what becomes of the member alone unless the class of
the member has an adapter. -/
theorem operationFor_container (hcontainer : registry.findOrigin? container = some a)
    (hsingle : a.multiValue = false) (hcarries : a.noValue = false)
    (harg : container.HasTypeArg a.valueArg value) (hflat : value.Flat)
    (hvalue : registry.findOrigin? value = none) (blockTimeout : Value) :
    let member := value.unwrap.optional.1
    (¬HidesOperation value →
        operationFor container registry blockTimeout = operationFor value registry blockTimeout) ∧
      (HidesOperation value →
        operationFor container registry blockTimeout = .ok .body ∧
          operationFor value registry blockTimeout ≠ .ok .body ∧
          OwnOperation registry member.unwrap (operationFor value registry blockTimeout) ∧
          (member.Flat → registry.findOrigin? member = none →
            operationFor value registry blockTimeout = operationFor member registry blockTimeout)) := by
  intro member
  rw [operationFor_of_container hcontainer hsingle hcarries harg,
    operationFor_of_no_adapter hflat hvalue]
  refine ⟨plainOperation_member hflat, fun hhides => ?_⟩
  have hown : OwnOperation registry member.unwrap _ := ownOperation_plainOperation hhides.2
  exact ⟨plainOperation_of_optional hhides.1, hown.ne_body, hown,
    fun hmember hfind => (operationFor_of_own hmember hhides.2 hfind blockTimeout).symm⟩

/-- A coroutine that yields an entity of a stream asks for the stream, as the entity alone does. -/
theorem operationFor_coroutine_entity :
    let value := Hint.genericOf .responseEntity [.genericOf .iterator [.cls .str]]
    let container := Hint.genericOf .coroutine [.any, .any, value]
    Registry.default.findOrigin? value = none ∧ ¬HidesOperation value ∧
      operationFor container .default (.int 5) = operationFor value .default (.int 5) ∧
      operationFor value .default (.int 5) = .ok .entityFlux := by
  intro value container
  have hcontainer : Registry.default.findOrigin? container =
      some { container := .coroutine, valueArg := 2, conversion := .coroutine } := by rfl
  have harg : container.HasTypeArg 2 value := Hint.hasTypeArg_genericOf (i := 2) rfl
  have hvalue : Registry.default.findOrigin? value = none := by rfl
  have hhides : ¬HidesOperation value := fun h => Bool.false_ne_true h.1
  refine ⟨hvalue, hhides, ?_, by rfl⟩
  exact (operationFor_container hcontainer rfl rfl harg rfl hvalue (.int 5)).1 hhides

/-- Optional header fields alone are asked for as header fields, and inside a future as a body. -/
theorem operationFor_future_optional_headers :
    let value := Hint.unionOf true [.cls .headers, .nothing]
    let container := Hint.genericOf .future [value]
    let a : Adapter := { container := .future, conversion := .future }
    Registry.default.findOrigin? container = some a ∧ a.multiValue = false ∧ a.noValue = false ∧
      container.HasTypeArg a.valueArg value ∧ value.Flat ∧
      Registry.default.findOrigin? value = none ∧
      operationFor container .default (.int 5) = .ok .body ∧
      operationFor value .default (.int 5) = .ok .headers := by
  intro value container a
  have hvalue : value = .union true [.cls .headers, .void] := by rfl
  refine ⟨by rfl, rfl, rfl, Hint.hasTypeArg_genericOf (i := 0) rfl, ?_, ?_, ?_, ?_⟩
  · rw [hvalue]
    rfl
  · rw [hvalue]
    rfl
  · rfl
  · rfl

end Plan

end HttpContract
