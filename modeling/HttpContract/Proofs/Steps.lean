import Mathlib.Data.List.Forall2

/-!
# Steps that may fail

What is known of a chain of steps that succeeded: each of them did. A list that is gone through in order
succeeds exactly when each element does, so that results and elements stand to each other one by one.
-/

namespace HttpContract

variable {ε α β : Type} {f : α → Except ε β} {x : α} {y : β} {xs : List α} {ys : List β}

theorem exists_of_bind_eq_ok {first : Except ε α} {next : α → Except ε β}
    (h : (first >>= next) = .ok y) : ∃ x, first = .ok x ∧ next x = .ok y := by
  cases first with
  | error e => cases h
  | ok x => exact ⟨x, rfl, h⟩

theorem bind_eq_error_iff {first : Except ε α} {next : α → Except ε β} {e : ε} :
    (first >>= next) = .error e ↔ first = .error e ∨ ∃ x, first = .ok x ∧ next x = .error e := by
  cases first <;> simp [bind, Except.bind]

theorem exists_of_mapError_eq_ok {δ : Type} {result : Except ε α} {g : ε → δ}
    (h : result.mapError g = .ok x) : result = .ok x := by
  cases result with
  | error e => cases h
  | ok x' =>
      cases h
      rfl

theorem mapError_eq_error_iff {δ : Type} {result : Except ε α} {g : ε → δ} {e : δ} :
    result.mapError g = .error e ↔ ∃ e', result = .error e' ∧ g e' = e := by
  cases result <;> simp [Except.mapError]

theorem map_eq_ok_iff {result : Except ε α} {g : α → β} :
    result.map g = .ok y ↔ ∃ x, result = .ok x ∧ g x = y := by
  cases result <;> simp [Except.map]

theorem map_eq_error_iff {result : Except ε α} {g : α → β} {e : ε} :
    result.map g = .error e ↔ result = .error e := by
  cases result <;> simp [Except.map]

theorem eq_ok_of_toOption {result : Except ε α} (h : result.toOption = some x) : result = .ok x := by
  cases result with
  | error e => cases h
  | ok x' => rw [Option.some.inj h]

/-! ## A step that may be left out -/

section Optional

variable {found : Option α} {kept : Option β}

theorem optionMapM_eq_ok_iff :
    found.mapM f = .ok kept ↔ Option.Rel (fun x y => f x = .ok y) found kept := by
  cases found with
  | none =>
      cases kept with
      | none => simp [pure, Except.pure]
      | some y => simp [pure, Except.pure]
  | some x =>
      rw [Option.mapM_some]
      cases kept with
      | none => cases f x <;> simp [Functor.map, Except.map]
      | some y => cases hx : f x <;> simp [Functor.map, Except.map, hx]

theorem eq_none_iff_of_mapM (h : found.mapM f = .ok kept) : kept = none ↔ found = none := by
  cases optionMapM_eq_ok_iff.mp h <;> simp

theorem optionMapM_eq_error_iff {e : ε} : found.mapM f = .error e ↔ ∃ x ∈ found, f x = .error e := by
  cases found with
  | none => simp [pure, Except.pure]
  | some x =>
      rw [Option.mapM_some]
      cases hx : f x <;> simp [Functor.map, Except.map, hx]

end Optional

/-! ## Going through a list -/

theorem mapM_eq_ok_iff : xs.mapM f = .ok ys ↔ List.Forall₂ (fun x y => f x = .ok y) xs ys := by
  induction xs generalizing ys with
  | nil =>
      rw [List.mapM_nil, List.forall₂_nil_left_iff]
      exact ⟨fun h => (Except.ok.inj h).symm, fun h => h ▸ rfl⟩
  | cons x xs ih =>
      rw [List.mapM_cons, List.forall₂_cons_left_iff]
      constructor
      · intro h
        obtain ⟨y, hy, h⟩ := exists_of_bind_eq_ok h
        obtain ⟨rest, hrest, h⟩ := exists_of_bind_eq_ok h
        cases h
        exact ⟨y, rest, hy, ih.mp hrest, rfl⟩
      · rintro ⟨y, rest, hy, hrest, rfl⟩
        rw [hy, ih.mpr hrest]
        rfl

theorem mapM_mapError_map {δ γ : Type} {g : ε → δ} {k : β → γ} :
    xs.mapM (fun x => ((f x).mapError g).map k) = ((xs.mapM f).mapError g).map (List.map k) := by
  induction xs with
  | nil => rfl
  | cons x xs ih =>
      rw [List.mapM_cons, List.mapM_cons, ih]
      cases f x with
      | error e => rfl
      | ok y => cases xs.mapM f <;> rfl

theorem mapM_eq_error_iff {e : ε} :
    xs.mapM f = .error e ↔ ∃ x, xs.find? (fun x => !(f x).isOk) = some x ∧ f x = .error e := by
  induction xs with
  | nil => simp [pure, Except.pure]
  | cons x xs ih =>
      rw [List.mapM_cons]
      cases hx : f x with
      | error e' => simp [bind, Except.bind, hx, Except.isOk, Except.toBool]
      | ok y =>
          have hrest : ((f x).bind fun y => (xs.mapM f).bind fun ys => .ok (y :: ys)) = .error e ↔
              xs.mapM f = .error e := by
            rw [hx]
            cases xs.mapM f <;> simp [Except.bind]
          rw [hx] at hrest
          refine hrest.trans (ih.trans ?_)
          simp [hx, Except.isOk, Except.toBool]

theorem forall₂_of_mapM_eq_some {g : α → Option β} (h : xs.mapM g = some ys) :
    List.Forall₂ (fun x y => g x = some y) xs ys := by
  induction xs generalizing ys with
  | nil =>
      cases h
      exact .nil
  | cons x xs ih =>
      simp only [List.mapM_cons, Option.bind_eq_bind, Option.bind_eq_some_iff] at h
      obtain ⟨y, hy, rest, hrest, h⟩ := h
      cases h
      exact .cons hy (ih hrest)

theorem mapM_congr_of_mem {m : Type → Type} [Monad m] [LawfulMonad m] {f g : α → m β}
    (h : ∀ x ∈ xs, f x = g x) : xs.mapM f = xs.mapM g := by
  induction xs with
  | nil => simp only [List.mapM_nil]
  | cons x xs ih =>
      have hrest := ih fun x' hx' => h x' (List.mem_cons_of_mem _ hx')
      simp only [List.mapM_cons, h x List.mem_cons_self, hrest]

theorem exists_right_of_mem {R : α → β → Prop} (h : List.Forall₂ R xs ys) (hx : x ∈ xs) :
    ∃ y ∈ ys, R x y := by
  induction h with
  | nil => cases hx
  | @cons x' y xs ys hxy _ ih =>
      rcases List.mem_cons.mp hx with rfl | hx
      · exact ⟨y, List.mem_cons_self, hxy⟩
      · obtain ⟨y', hy', hR⟩ := ih hx
        exact ⟨y', List.mem_cons_of_mem _ hy', hR⟩

theorem exists_left_of_mem {R : α → β → Prop} (h : List.Forall₂ R xs ys) (hy : y ∈ ys) :
    ∃ x ∈ xs, R x y := by
  obtain ⟨x, hx, hR⟩ := exists_right_of_mem (R := flip R) h.flip hy
  exact ⟨x, hx, hR⟩

theorem exists_mem_iff_of_forall₂ {R : α → β → Prop} {P : α → Prop} {Q : β → Prop}
    (h : List.Forall₂ R xs ys) (hR : ∀ x y, R x y → (P x ↔ Q y)) : (∃ x ∈ xs, P x) ↔ ∃ y ∈ ys, Q y := by
  constructor
  · rintro ⟨x, hx, hP⟩
    obtain ⟨y, hy, hxy⟩ := exists_right_of_mem h hx
    exact ⟨y, hy, (hR x y hxy).mp hP⟩
  · rintro ⟨y, hy, hQ⟩
    obtain ⟨x, hx, hxy⟩ := exists_left_of_mem h hy
    exact ⟨x, hx, (hR x y hxy).mpr hQ⟩

theorem map_eq_map_of_forall₂ {γ : Type} {g : α → γ} {k : β → γ}
    (h : List.Forall₂ (fun x y => g x = k y) xs ys) : xs.map g = ys.map k := by
  induction h with
  | nil => rfl
  | cons hxy _ ih => rw [List.map_cons, List.map_cons, hxy, ih]

theorem findSome?_eq_of_forall₂ {γ : Type} {g : α → Option γ} {k : β → Option γ}
    (h : List.Forall₂ (fun x y => g x = k y) xs ys) : xs.findSome? g = ys.findSome? k := by
  induction h with
  | nil => rfl
  | cons hxy _ ih => rw [List.findSome?_cons, List.findSome?_cons, hxy, ih]

end HttpContract
