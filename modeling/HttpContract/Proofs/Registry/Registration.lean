import Mathlib.Data.List.Induction
import Mathlib.Data.List.Nodup
import HttpContract.Registry

/-!
# Registering adapters

A registry keeps the last adapter registered for each container, in the order of these registrations. A
class is served by the last adapter for itself, else by the first kept for a class above it
(`followsRegistrations_registerAll`). A registration is seen only by the classes under its container.
-/

namespace HttpContract.Registry

variable {r base : Registry} {a b : Adapter} {c k : Class} {history : List Adapter}
  {served : Option Adapter}

/-! ## The last adapter for a container -/

def IsLatest (history : List Adapter) (a : Adapter) : Prop :=
  ∃ before after, history = before ++ a :: after ∧ ∀ b ∈ after, b.container ≠ a.container

theorem isLatest_append_singleton :
    IsLatest (history ++ [b]) a ↔ a = b ∨ IsLatest history a ∧ b.container ≠ a.container := by
  constructor
  · rintro ⟨before, after, heq, hafter⟩
    rcases after.eq_nil_or_concat' with rfl | ⟨after, x, rfl⟩
    · obtain ⟨-, hab⟩ := List.append_inj' heq rfl
      cases hab
      exact .inl rfl
    · rw [← List.cons_append, ← List.append_assoc] at heq
      obtain ⟨hhistory, hxb⟩ := List.append_inj' heq rfl
      cases hxb
      refine .inr ⟨⟨before, after, hhistory, fun y hy => hafter y ?_⟩, hafter b ?_⟩
      · exact List.mem_append_left _ hy
      · exact List.mem_append_right _ (List.mem_singleton_self b)
  · rintro (rfl | ⟨⟨before, after, rfl, hafter⟩, hb⟩)
    · exact ⟨history, [], rfl, by simp⟩
    · refine ⟨before, after ++ [b], by simp, fun y hy => ?_⟩
      rcases List.mem_append.mp hy with hy | hy
      · exact hafter y hy
      · cases List.mem_singleton.mp hy
        exact hb

theorem IsLatest.mem (h : IsLatest history a) : a ∈ history := by
  obtain ⟨before, after, rfl, -⟩ := h
  exact List.mem_append_right _ List.mem_cons_self

theorem exists_isLatest (hb : b ∈ history) :
    ∃ a, IsLatest history a ∧ a.container = b.container := by
  induction history using List.reverseRecOn with
  | nil => cases hb
  | append_singleton history x ih =>
      by_cases hx : x.container = b.container
      · exact ⟨x, isLatest_append_singleton.mpr (.inl rfl), hx⟩
      · have hmem : b ∈ history := by
          rcases List.mem_append.mp hb with hb | hb
          · exact hb
          · cases List.mem_singleton.mp hb
            exact absurd rfl hx
        obtain ⟨a, ha, hab⟩ := ih hmem
        exact ⟨a, isLatest_append_singleton.mpr (.inr ⟨ha, hab ▸ hx⟩), hab⟩

theorem isLatest_of_nodup (h : (history.map (·.container)).Nodup) : IsLatest history a ↔ a ∈ history := by
  refine ⟨IsLatest.mem, fun ha => ?_⟩
  obtain ⟨b, hb, hba⟩ := exists_isLatest ha
  rwa [← List.inj_on_of_nodup_map h hb.mem ha hba]

/-! ## What registrations leave -/

/-- The adapters of a registry after a history of registrations. -/
structure Keeps (r : Registry) (history : List Adapter) : Prop where
  distinct : (r.adapters.map (·.container)).Nodup
  order : r.adapters.Sublist history
  mem_iff : ∀ a, a ∈ r.adapters ↔ IsLatest history a

theorem keeps_self (h : (r.adapters.map (·.container)).Nodup) : r.Keeps r.adapters :=
  ⟨h, .refl _, fun _ => (isLatest_of_nodup h).symm⟩

theorem Keeps.register (h : r.Keeps history) (a : Adapter) : (r.register a).Keeps (history ++ [a]) where
  distinct := by
    have hothers : (r.adapters.filter fun b => !decide (b.container = a.container)).Sublist r.adapters :=
      List.filter_sublist
    have hold := h.distinct.sublist (hothers.map _)
    simp only [Registry.register, List.map_append, List.map_cons, List.map_nil]
    refine List.Nodup.append hold (List.nodup_singleton _) ?_
    simp
  order := (List.filter_sublist.trans h.order).append (.refl [a])
  mem_iff b := by
    rw [isLatest_append_singleton, ← h.mem_iff, Registry.register, List.mem_append, List.mem_filter,
      List.mem_singleton, Bool.not_eq_true', decide_eq_false_iff_not, or_comm, ne_comm]

theorem Keeps.registerAll (h : r.Keeps history) (as : List Adapter) :
    (r.registerAll as).Keeps (history ++ as) := by
  induction as generalizing r history with
  | nil => rwa [List.append_nil]
  | cons a as ih =>
      have hrest := ih (h.register a)
      rwa [List.append_assoc] at hrest

/-! ## The adapter of a class -/

theorem find?_eq_none_iff :
    r.find? c = none ↔ ∀ b ∈ r.adapters, c.isSubclassOf b.container = false := by
  simp only [find?, Option.or_eq_none_iff, List.find?_eq_none, decide_eq_true_eq, Bool.not_eq_true]
  refine ⟨And.right, fun h => ⟨fun b hb hc => ?_, h⟩⟩
  have hself := h b hb
  rw [hc, c.isSubclassOf_refl] at hself
  cases hself

theorem findHint?_eq_none_iff {h : Hint} :
    r.findHint? h = none ↔
      ∀ c, h.class? = some c → ∀ b ∈ r.adapters, c.isSubclassOf b.container = false := by
  unfold findHint?
  cases h.class? with
  | none => simp
  | some c => simp [find?_eq_none_iff]

/-- The adapter of a class after registrations, where `order` is what is looked through. -/
inductive Served (history order : List Adapter) (c : Class) : Option Adapter → Prop where
  /-- The last adapter for the class itself. -/
  | own {a : Adapter} (ha : IsLatest history a) (hc : a.container = c) : Served history order c (some a)
  /-- The first adapter for a class above, where the class itself has none. -/
  | above {a : Adapter} {before after : List Adapter} (hnone : ∀ b ∈ history, b.container ≠ c)
      (horder : order = before ++ a :: after) (ha : c.isSubclassOf a.container = true)
      (hbefore : ∀ b ∈ before, c.isSubclassOf b.container = false) : Served history order c (some a)
  | unserved (hnone : ∀ b ∈ order, c.isSubclassOf b.container = false) : Served history order c none

namespace Keeps

theorem find?_of_isLatest (h : r.Keeps history) (ha : IsLatest history a) :
    r.find? a.container = some a := by
  have hmem : a ∈ r.adapters := (h.mem_iff a).mpr ha
  have hsome : (r.adapters.find? fun b => b.container = a.container).isSome := by
    rw [List.find?_isSome]
    exact ⟨a, hmem, decide_eq_true rfl⟩
  obtain ⟨b, hb⟩ := Option.isSome_iff_exists.mp hsome
  have hcontainer : b.container = a.container := of_decide_eq_true (List.find?_some hb :)
  rw [find?, hb, List.inj_on_of_nodup_map h.distinct (List.mem_of_find?_eq_some hb) hmem hcontainer,
    Option.some_or]

theorem find?_of_forall_ne (h : r.Keeps history) (hnone : ∀ b ∈ history, b.container ≠ c) :
    r.find? c = r.adapters.find? fun b => c.isSubclassOf b.container := by
  have hown : r.adapters.find? (fun b => b.container = c) = none := by
    rw [List.find?_eq_none]
    intro b hb
    have hne := hnone b (h.order.subset hb)
    simpa using hne
  rw [find?, hown, Option.none_or]

theorem served_find? (h : r.Keeps history) (c : Class) : Served history r.adapters c (r.find? c) := by
  by_cases hown : ∃ b ∈ history, b.container = c
  · obtain ⟨b, hb, rfl⟩ := hown
    obtain ⟨a, ha, hab⟩ := exists_isLatest hb
    rw [← hab, h.find?_of_isLatest ha]
    exact .own ha rfl
  · have hnone : ∀ b ∈ history, b.container ≠ c := fun b hb hc => hown ⟨b, hb, hc⟩
    cases hfind : r.find? c with
    | none => exact .unserved (find?_eq_none_iff.mp hfind)
    | some a =>
        rw [h.find?_of_forall_ne hnone] at hfind
        obtain ⟨ha, before, after, horder, hbefore⟩ := List.find?_eq_some_iff_append.mp hfind
        exact .above hnone horder ha fun b hb => by simpa using hbefore b hb

theorem find?_eq_iff (h : r.Keeps history) : r.find? c = served ↔ Served history r.adapters c served := by
  constructor
  · rintro rfl
    exact h.served_find? c
  · intro hserved
    cases hserved with
    | own ha hc => rw [← hc, h.find?_of_isLatest ha]
    | @above a before after hnone horder ha hbefore =>
        rw [h.find?_of_forall_ne hnone, List.find?_eq_some_iff_append]
        exact ⟨ha, before, after, horder, fun b hb => by simpa using hbefore b hb⟩
    | unserved hnone => exact find?_eq_none_iff.mpr hnone

end Keeps

/-! ## One more registration -/

/-- The registry without the adapter for a container. -/
def without (r : Registry) (k : Class) : Registry :=
  ⟨r.adapters.filter fun b => !decide (b.container = k)⟩

theorem mem_without : b ∈ (r.without k).adapters ↔ b ∈ r.adapters ∧ b.container ≠ k := by
  simp [without]

/-- A new adapter comes first for its own container and last for all other classes. -/
theorem find?_register (r : Registry) (a : Adapter) (c : Class) :
    (r.register a).find? c =
      if a.container = c then some a
      else ((r.without a.container).find? c).or (if c.isSubclassOf a.container then some a else none) := by
  have hregister : (r.register a).adapters = (r.without a.container).adapters ++ [a] := rfl
  unfold find?
  rw [hregister, List.find?_append, List.find?_append, List.find?_singleton, List.find?_singleton]
  by_cases hc : a.container = c
  · have hnone : (r.without a.container).adapters.find? (fun b => b.container = c) = none := by
      rw [List.find?_eq_none]
      intro b hb
      have hne := (mem_without.mp hb).2
      simpa [hc] using hne
    rw [hnone, if_pos hc]
    simp [hc]
  · rw [if_neg hc, ← Option.or_assoc]
    simp [hc]

theorem find?_without_of_not_isSubclassOf (hc : c.isSubclassOf k = false) :
    (r.without k).find? c = r.find? c := by
  -- an adapter that the class could use is not one for the container
  have hkeeps : ∀ b : Adapter, c.isSubclassOf b.container = true → b.container ≠ k := by
    rintro b hb rfl
    exact Bool.false_ne_true (hc.symm.trans hb)
  have hne : c ≠ k := by
    rintro rfl
    exact Bool.false_ne_true (hc.symm.trans c.isSubclassOf_refl)
  unfold find? without
  rw [List.find?_filter, List.find?_filter]
  congr 2
  · funext b
    by_cases hb : b.container = c <;> simp [hb, hne]
  · funext b
    by_cases hb : c.isSubclassOf b.container = true <;> simp [hb, hkeeps]

theorem find?_register_of_not_isSubclassOf (hc : c.isSubclassOf a.container = false) :
    (r.register a).find? c = r.find? c := by
  have hne : a.container ≠ c := by
    rintro rfl
    exact Bool.false_ne_true (hc.symm.trans a.container.isSubclassOf_refl)
  rw [find?_register, if_neg hne, find?_without_of_not_isSubclassOf hc, hc]
  exact Option.or_none

/-! ## Any registrations -/

/-- What a registry is to look-ups after a history of registrations. -/
structure FollowsRegistrations (r : Registry) (history : List Adapter) : Prop extends
    r.Keeps history where
  served_iff : ∀ c served, r.find? c = served ↔ Served history r.adapters c served
  /-- What is no class is never served. -/
  unserved_iff : ∀ h, r.findHint? h = none ↔
    ∀ c, h.class? = some c → ∀ b ∈ r.adapters, c.isSubclassOf b.container = false
  unchanged : ∀ a c, c.isSubclassOf a.container = false → (r.register a).find? c = r.find? c

theorem distinct_base (hbase : base = .empty ∨ base = .default) :
    (base.adapters.map (·.container)).Nodup := by
  rcases hbase with rfl | rfl
  · exact List.nodup_nil
  · decide

/-- After any registrations a class is served by the last adapter for itself, else by the first one kept for a
class above it. -/
theorem followsRegistrations_registerAll (hbase : base = .empty ∨ base = .default) (as : List Adapter) :
    (base.registerAll as).FollowsRegistrations (base.adapters ++ as) := by
  have hkeeps := (keeps_self (distinct_base hbase)).registerAll as
  exact {
    toKeeps := hkeeps
    served_iff _ _ := hkeeps.find?_eq_iff
    unserved_iff _ := findHint?_eq_none_iff
    unchanged _ _ := find?_register_of_not_isSubclassOf }

/-- Registered again, the adapter of awaited values is the last one and serves what is awaited; a task, under
two registered containers, is then served by the other one. -/
theorem followsRegistrations_awaited_again :
    let again : Adapter := { container := .awaitable, noValue := true }
    let iterable : Adapter := { container := .iterable, multiValue := true }
    let r := Registry.default.registerAll [iterable, again]
    r.FollowsRegistrations (Registry.default.adapters ++ [iterable, again]) ∧
      r.find? .awaitable = some again ∧ r.find? .task = some iterable ∧ r.find? .int = none := by
  intro again iterable r
  exact ⟨followsRegistrations_registerAll (.inr rfl) _, by rfl, by rfl, by rfl⟩

end HttpContract.Registry
