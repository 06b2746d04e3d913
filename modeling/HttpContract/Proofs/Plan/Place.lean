import HttpContract.Proofs.Plan.EntityStream

/-!
# Places in a result

A hint stands in a declared result alone, or as the value of a container. What is chosen there depends on the
hint under its annotations, and takes the absent value and its class alike.
-/

namespace HttpContract

namespace Plan

variable {registry : Registry} {returnAdapter : Option Adapter} {h h' result value body : Hint}
  {a : Adapter} {blockTimeout : Value}

theorem compile_of_unwrap_eq (heq : h.unwrap = h'.unwrap) :
    compile h registry blockTimeout = compile h' registry blockTimeout := by
  rw [compile_eq, compile_eq, heq]

theorem returnAdapter_of_compile {p : Plan} (hp : compile h registry blockTimeout = .ok p) :
    p.returnAdapter = registry.findOrigin? h.unwrap := by
  obtain ⟨actual, c, -, -, rfl⟩ := compile_eq_ok_iff.mp hp
  rfl

theorem compile_of_adapter (hfind : registry.findOrigin? h.unwrap = some a)
    (hvalue : h.unwrap.typeArg? a.valueArg = some value) (blockTimeout : Value) :
    compile h registry blockTimeout =
      (choose registry (some a) value).map (ofChoice (some a) false blockTimeout) := by
  simp only [compile_eq, hfind, actualHint, hvalue]
  rfl

/-- The value of a container is looked for before its first type argument. -/
theorem compile_of_no_typeArg (hfind : registry.findOrigin? h.unwrap = some a)
    (hvalue : h.unwrap.typeArg? a.valueArg = none) (blockTimeout : Value) :
    compile h registry blockTimeout = .error .noTypeArg := by
  simp only [compile_eq, hfind, actualHint, hvalue]
  rfl

theorem compile_of_no_adapter (hfind : registry.findOrigin? h.unwrap = none) (blockTimeout : Value) :
    compile h registry blockTimeout =
      (choose registry none h.unwrap.optional.1.unwrap).map
        (ofChoice none h.unwrap.optional.2 blockTimeout) := by
  simp only [compile_eq, hfind]
  rfl

/-! ## Places in a result -/

/-- A result that declares a hint alone, or as the value of a container with the given adapter. -/
inductive Declares (registry : Registry) (value : Hint) : Option Adapter → Hint → Prop where
  | alone : Declares registry value none value
  | inside {container : Hint} {a : Adapter} (hcontainer : registry.findOrigin? container = some a)
      (harg : container.HasTypeArg a.valueArg value) : Declares registry value (some a) container

theorem choose_asClass_unwrap (registry : Registry) (returnAdapter : Option Adapter) (value : Hint) :
    choose registry returnAdapter value.unwrap = choose registry returnAdapter value.asClass.unwrap := by
  cases value <;> rfl

theorem compile_of_container {container : Hint} (hcontainer : registry.findOrigin? container = some a)
    (harg : container.HasTypeArg a.valueArg value) (blockTimeout : Value) :
    compile container registry blockTimeout =
      (choose registry (some a) value.asClass.unwrap).map (ofChoice (some a) false blockTimeout) := by
  have hflat := Registry.flat_of_findOrigin? hcontainer
  have hfind : registry.findOrigin? container.unwrap = some a := by
    rw [Registry.findOrigin?_unwrap hflat, hcontainer]
  unfold Hint.HasTypeArg at harg
  rw [← Hint.typeArg?_unwrap hflat] at harg
  rcases harg with harg | harg
  · rw [compile_of_adapter hfind harg, choose_asClass_unwrap]
  · exact compile_of_adapter hfind harg blockTimeout

/-- Entities have an adapter where they are looked at only if they stand alone. -/
def LeavesEntities (registry : Registry) (place : Option Adapter) : Prop :=
  place = none → registry.find? .responseEntity = none

theorem compile_of_declares_entity {place : Option Adapter} (hentity : LeavesEntities registry place)
    (hresult : Declares registry (.entityOf body) place result) (blockTimeout : Value) :
    compile result registry blockTimeout =
      (choose registry place (.entityOf body)).map (ofChoice place false blockTimeout) := by
  cases hresult with
  | alone =>
      have hnone : registry.findOrigin? (Hint.entityOf body).unwrap = none := hentity rfl
      exact compile_of_no_adapter hnone blockTimeout
  | inside hcontainer harg => exact compile_of_container hcontainer harg blockTimeout

theorem choose_entityOf (registry : Registry) (returnAdapter : Option Adapter) (body : Hint) :
    choose registry returnAdapter (.entityOf body) =
      if returnAdapter.any (·.noValue) then .ok { operation := .void }
      else chooseEntity registry body.asClass.unwrap := by
  cases hvalue : returnAdapter.any (·.noValue) with
  | true =>
      rw [if_pos rfl]
      exact Chosen.eq_choose (.void fun h => Bool.false_ne_true (h.2.symm.trans hvalue))
  | false =>
      rw [if_neg Bool.false_ne_true]
      exact Chosen.eq_choose (.entity ⟨rfl, hvalue⟩ rfl (entityChosen_chooseEntity registry _))

end Plan

end HttpContract
