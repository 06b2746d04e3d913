import HttpContract.Description
import HttpContract.Proofs.Steps

/-!
# Defaults in a document

An interface is written as a document unless a default is in the way: a value that cannot be shown, or a whole
number that is too long. The text of an interface shows no defaults and can always be written.
-/

namespace HttpContract

/-! ## Faults of a document -/

namespace Json

theorem faultOfItems?_eq (items : List Json) : faultOfItems? items = items.findSome? fault? := by
  induction items with
  | nil => rfl
  | cons item items ih =>
      rw [faultOfItems?, List.findSome?_cons, ih]
      cases item.fault? <;> rfl

theorem faultOfFields?_eq (fields : List (String × Json)) :
    faultOfFields? fields = fields.findSome? fun f => f.2.fault? := by
  induction fields with
  | nil => rfl
  | cons field fields ih =>
      rw [faultOfFields?, List.findSome?_cons, ih]
      cases field.2.fault? <;> rfl

theorem written_eq_ok_iff {j : Json} {text : String} :
    j.written = .ok text ↔ j.fault? = none ∧ j.write = text := by
  unfold written
  cases j.fault? <;> simp

theorem written_eq_error_iff {j : Json} {e : Raised} : j.written = .error e ↔ j.fault? = some e := by
  unfold written
  cases j.fault? <;> simp

end Json

namespace Description

variable {d : Description} {ds : List Description} {v : Value} {j : Json} {e : Raised} {service : String}

/-- One of the methods has the value for the default of a parameter. -/
def HasDefault (ds : List Description) (v : Value) : Prop := ∃ d ∈ ds, ∃ p ∈ d.parameterDefaults, p.2 = v

/-! ## One default -/

theorem fault?_of_jsonOfDefault_error (h : jsonOfDefault v = .error e) : v.fault? = some e := by
  have hshown : v.shown.map Json.str = .error e → v.fault? = some e := by
    intro h
    rw [map_eq_error_iff, Value.shown] at h
    cases hfault : v.fault? with
    | none => simp [hfault] at h
    | some e' => simpa [hfault] using h
  cases v <;> first | exact hshown h | cases h

/-- What is in the way of a default is in the way of it as data. -/
theorem fault?_of_jsonOfDefault (h : jsonOfDefault v = .ok j) : j.fault? = v.fault? := by
  have hshown : v.shown.map Json.str = .ok j → j.fault? = v.fault? := by
    intro h
    obtain ⟨text, htext, rfl⟩ := map_eq_ok_iff.mp h
    unfold Value.shown at htext
    cases hfault : v.fault? with
    | none => rfl
    | some e' => simp [hfault] at htext
  cases v with
  | null | bool _ | int _ | float _ | str _ =>
      cases h
      rfl
  | _ => exact hshown h

/-! ## Descriptions -/

@[simp] theorem fault?_jsonOfOption (s : Option String) : (jsonOfOption s).fault? = none := by
  cases s <;> rfl

@[simp] theorem faultOfItems?_texts (xs : List String) : Json.faultOfItems? (xs.map Json.str) = none := by
  induction xs with
  | nil => rfl
  | cons x xs ih => simp [Json.faultOfItems?, Json.fault?, ih]

@[simp] theorem faultOfFields?_texts (ps : List (String × String)) :
    Json.faultOfFields? (ps.map fun p => (p.1, Json.str p.2)) = none := by
  induction ps with
  | nil => rfl
  | cons p ps ih => simp [Json.faultOfFields?, Json.fault?, ih]

theorem fault?_jsonWith (d : Description) (defaults : List (String × Json)) :
    (d.jsonWith defaults).fault? = defaults.findSome? fun f => f.2.fault? := by
  simp [jsonWith, Json.fault?, Json.faultOfFields?, ← Json.faultOfFields?_eq]

/-- The first default that is in the way of a method. -/
def fault? (d : Description) : Option Raised := d.parameterDefaults.findSome? fun p => p.2.fault?

theorem fault?_of_toJson (h : d.toJson = .ok j) : j.fault? = d.fault? := by
  obtain ⟨fields, hfields, rfl⟩ := map_eq_ok_iff.mp h
  rw [fault?_jsonWith, fault?]
  refine (findSome?_eq_of_forall₂ ((mapM_eq_ok_iff.mp hfields).imp fun p f hf => ?_)).symm
  obtain ⟨j, hj, rfl⟩ := map_eq_ok_iff.mp hf
  exact (fault?_of_jsonOfDefault hj).symm

theorem exists_of_toJson_error (h : d.toJson = .error e) :
    ∃ p ∈ d.parameterDefaults, p.2.fault? = some e := by
  obtain ⟨p, hp, hfault⟩ := mapM_eq_error_iff.mp (map_eq_error_iff.mp h)
  exact ⟨p, List.mem_of_find?_eq_some hp, fault?_of_jsonOfDefault_error (map_eq_error_iff.mp hfault)⟩

/-! ## Interfaces -/

theorem fault?_of_serviceJson (h : serviceJson service ds = .ok j) : j.fault? = ds.findSome? fault? := by
  obtain ⟨methods, hmethods, rfl⟩ := map_eq_ok_iff.mp h
  simp only [Json.fault?, Json.faultOfFields?, Json.faultOfItems?_eq, Option.none_or, Option.or_none]
  have hfaults := (mapM_eq_ok_iff.mp hmethods).imp fun d j hj => (fault?_of_toJson hj).symm
  exact (findSome?_eq_of_forall₂ hfaults).symm

/-- What is in the way of a document is in the way of a default. -/
theorem exists_of_serviceDocument_error (h : serviceDocument service ds = .error e) :
    ∃ v, HasDefault ds v ∧ v.fault? = some e := by
  obtain hjson | ⟨j, hj, hwritten⟩ := bind_eq_error_iff.mp h
  · obtain ⟨d, hd, hfault⟩ := mapM_eq_error_iff.mp (map_eq_error_iff.mp hjson)
    obtain ⟨p, hp, he⟩ := exists_of_toJson_error hfault
    exact ⟨p.2, ⟨d, List.mem_of_find?_eq_some hd, p, hp, rfl⟩, he⟩
  · rw [Json.written_eq_error_iff, fault?_of_serviceJson hj] at hwritten
    obtain ⟨d, hd, hfault⟩ := List.exists_of_findSome?_eq_some hwritten
    obtain ⟨p, hp, he⟩ := List.exists_of_findSome?_eq_some hfault
    exact ⟨p.2, ⟨d, hd, p, hp, rfl⟩, he⟩

/-- An interface is written as a document exactly if nothing is in the way of any default. -/
theorem exists_serviceDocument_iff (service : String) (ds : List Description) :
    (∃ text, serviceDocument service ds = .ok text) ↔ ∀ v, HasDefault ds v → v.fault? = none := by
  constructor
  · rintro ⟨text, htext⟩ v ⟨d, hd, p, hp, rfl⟩
    obtain ⟨j, hj, hwritten⟩ := exists_of_bind_eq_ok htext
    have hnone := (Json.written_eq_ok_iff.mp hwritten).1
    rw [fault?_of_serviceJson hj, List.findSome?_eq_none_iff] at hnone
    exact List.findSome?_eq_none_iff.mp (hnone d hd) p hp
  · intro hfaults
    cases h : serviceDocument service ds with
    | ok text => exact ⟨text, rfl⟩
    | error e =>
        obtain ⟨v, hv, he⟩ := exists_of_serviceDocument_error h
        cases (hfaults v hv).symm.trans he

end Description

end HttpContract
