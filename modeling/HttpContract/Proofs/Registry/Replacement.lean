import HttpContract.Proofs.Registry.Registration

/-!
# Registering a container again

A new adapter for a registered container takes the last place in the order of look-up. Classes stay with their
containers, the new adapter standing for the old one, except those that the container served from above while
another registered container is above them too: they go over to the first of the others
(`served_after_replacement`).
-/

namespace HttpContract.Registry

variable {r : Registry} {a b old : Adapter} {c k : Class}

/-! ## What a look-up finds -/

theorem mem_of_find? (h : r.find? c = some b) : b ∈ r.adapters := by
  rcases Option.or_eq_some_iff.mp h with hown | ⟨-, habove⟩
  · exact List.mem_of_find?_eq_some hown
  · exact List.mem_of_find?_eq_some habove

theorem isSubclassOf_of_find? (h : r.find? c = some b) : c.isSubclassOf b.container = true := by
  rcases Option.or_eq_some_iff.mp h with hown | ⟨-, habove⟩
  · have hc : b.container = c := of_decide_eq_true (List.find?_some hown :)
    rw [hc]
    exact c.isSubclassOf_refl
  · exact (List.find?_some habove :)

theorem container_of_find? (h : r.find? c = some b) (hc : ∃ x ∈ r.adapters, x.container = c) :
    b.container = c := by
  rcases Option.or_eq_some_iff.mp h with hown | ⟨hnone, -⟩
  · exact of_decide_eq_true (List.find?_some hown :)
  · obtain ⟨x, hx, hxc⟩ := hc
    rw [List.find?_eq_none] at hnone
    exact absurd (decide_eq_true hxc) (hnone x hx)

/-! ## Without a container -/

theorem find?_filter_of_find? {p q : Adapter → Bool} {as : List Adapter} (h : as.find? p = some b)
    (hb : q b = true) : (as.filter q).find? p = some b := by
  obtain ⟨hp, before, after, rfl, hbefore⟩ := List.find?_eq_some_iff_append.mp h
  have hnone : (before.filter q).find? p = none := by
    rw [List.find?_eq_none]
    intro x hx
    simpa using hbefore x (List.mem_of_mem_filter hx)
  rw [List.filter_append, List.filter_cons_of_pos hb, List.find?_append, hnone, Option.none_or,
    List.find?_cons_of_pos hp]

theorem find?_without (h : r.find? c = some b) (hb : b.container ≠ k) :
    (r.without k).find? c = some b := by
  have hkept : (!decide (b.container = k)) = true := by simpa using hb
  rcases Option.or_eq_some_iff.mp h with hown | ⟨hnone, habove⟩
  · rw [find?, without, find?_filter_of_find? hown hkept, Option.some_or]
  · have hnone' : (r.without k).adapters.find? (fun x => x.container = c) = none := by
      rw [List.find?_eq_none] at hnone ⊢
      exact fun x hx => hnone x (mem_without.mp hx).1
    rw [find?, hnone', Option.none_or]
    exact find?_filter_of_find? habove hkept

/-! ## Registering again -/

/-- The class is under the container of the adapter, which served it, and under another registered one. -/
structure Displaced (r : Registry) (a : Adapter) (c : Class) : Prop where
  ne : c ≠ a.container
  served : ∃ old, r.find? c = some old ∧ old.container = a.container
  other : ∃ b ∈ r.adapters, b.container ≠ a.container ∧ c.isSubclassOf b.container = true

theorem find?_register_of_displaced (h : r.Displaced a c) :
    ∃ b, (r.register a).find? c = some b ∧ (r.without a.container).find? c = some b ∧
      b.container ≠ a.container := by
  obtain ⟨x, hx, hxa, hcx⟩ := h.other
  cases hfind : (r.without a.container).find? c with
  | none =>
      have hnone := find?_eq_none_iff.mp hfind x (mem_without.mpr ⟨hx, hxa⟩)
      exact absurd (hcx.symm.trans hnone) Bool.true_eq_false.mp
  | some b =>
      refine ⟨b, ?_, rfl, (mem_without.mp (mem_of_find? hfind)).2⟩
      rw [find?_register, if_neg h.ne.symm, hfind, Option.some_or]

theorem find?_register_of_container (h : r.find? c = some old) (hold : old.container = a.container)
    (hplaced : ¬r.Displaced a c) : (r.register a).find? c = some a := by
  rw [find?_register]
  by_cases hc : a.container = c
  · exact if_pos hc
  · have hbelow : c.isSubclassOf a.container = true := hold ▸ isSubclassOf_of_find? h
    have hnone : (r.without a.container).find? c = none := by
      rw [find?_eq_none_iff]
      intro x hx
      obtain ⟨hx, hxa⟩ := mem_without.mp hx
      cases hcx : c.isSubclassOf x.container with
      | false => rfl
      | true => exact absurd ⟨Ne.symm hc, ⟨old, h, hold⟩, x, hx, hxa, hcx⟩ hplaced
    rw [if_neg hc, hnone, Option.none_or, if_pos hbelow]

theorem find?_register_of_other (h : r.find? c = some old) (hold : old.container ≠ a.container)
    (hregistered : ∃ b ∈ r.adapters, b.container = a.container) : (r.register a).find? c = some old := by
  have hc : a.container ≠ c := by
    rintro rfl
    exact hold (container_of_find? h hregistered)
  rw [find?_register, if_neg hc, find?_without h hold, Option.some_or]

theorem find?_register_of_none (h : r.find? c = none)
    (hregistered : ∃ b ∈ r.adapters, b.container = a.container) : (r.register a).find? c = none := by
  obtain ⟨b, hb, hba⟩ := hregistered
  have hc : c.isSubclassOf a.container = false := hba ▸ find?_eq_none_iff.mp h b hb
  rw [find?_register_of_not_isSubclassOf hc, h]

/-- Registering a container again leaves every class with its container, the new adapter standing for the old
one; only a class that has another registered container above it leaves the one registered again, and is
served as if there were none. -/
theorem served_after_replacement (hregistered : ∃ b ∈ r.adapters, b.container = a.container) (c : Class) :
    (¬r.Displaced a c →
        (r.register a).find? c =
          (r.find? c).map fun old => if old.container = a.container then a else old) ∧
      (r.Displaced a c →
        ∃ b, (r.register a).find? c = some b ∧ (r.without a.container).find? c = some b ∧
          b.container ≠ a.container) := by
  refine ⟨fun hplaced => ?_, find?_register_of_displaced⟩
  cases hfind : r.find? c with
  | none => exact find?_register_of_none hfind hregistered
  | some old =>
      rw [Option.map_some]
      by_cases hold : old.container = a.container
      · rw [if_pos hold]
        exact find?_register_of_container hfind hold hplaced
      · rw [if_neg hold]
        exact find?_register_of_other hfind hold hregistered

/-- What can only be awaited goes over to the new adapter. -/
theorem served_after_replacement_of_awaited :
    let again : Adapter := { container := .awaitable, noValue := true }
    let ready : Class := { name := "Ready", ancestors := ["Awaitable"] }
    (∃ b ∈ Registry.default.adapters, b.container = again.container) ∧
      ¬Registry.default.Displaced again ready ∧
      (Registry.default.register again).find? ready = some again := by
  intro again ready
  have hregistered : ∃ b ∈ Registry.default.adapters, b.container = again.container := by decide
  have hplaced : ¬Registry.default.Displaced again ready := by
    rintro ⟨-, -, b, hb, hba, hready⟩
    revert b
    decide
  refine ⟨hregistered, hplaced, ?_⟩
  rw [(served_after_replacement hregistered ready).1 hplaced]
  rfl

/-- What is awaited and iterated goes over from the one container to the other. -/
theorem served_elsewhere_after_replacement :
    let again : Adapter := { container := .awaitable }
    let hybrid : Class :=
      { name := "Hybrid", ancestors := ["Ticker", "Awaitable", "AsyncIterator", "AsyncIterable"] }
    (∃ b ∈ Registry.default.adapters, b.container = again.container) ∧
      (Registry.default.find? hybrid).map (·.container) = some .awaitable ∧
      ((Registry.default.register again).find? hybrid).map (·.container) = some .asyncIterator ∧
      Class.awaitable ≠ Class.asyncIterator := by
  intro again hybrid
  exact ⟨by decide, by rfl, by rfl, by decide⟩

end HttpContract.Registry
