import HttpContract.Registry

/-!
# Type arguments

A container names what it carries by one of its type arguments, which is read without its annotations.
Annotations never stand under annotations, and a hint with an adapter is a class under them.
-/

namespace HttpContract

namespace Hint

variable {h x : Hint} {c : Class} {xs : List Hint} {i : Nat}

/-! ## Annotations -/

/-- Annotations stand on a hint that has none, as `annotate` puts them. -/
def Flat (h : Hint) : Prop := h.unwrap.unwrap = h.unwrap

theorem typeArg?_unwrap (hh : h.Flat) (i : Int) : h.unwrap.typeArg? i = h.typeArg? i := by
  have hargs : h.unwrap.args = h.args := by
    unfold args
    rw [hh]
  simp only [typeArg?, hargs]

theorem firstArg_unwrap (hh : h.Flat) : h.unwrap.firstArg = h.firstArg := by
  rw [firstArg, firstArg, typeArg?_unwrap hh]

/-! ## Arguments of classes -/

/-- The type argument at a place is the given hint; in a container of hints its class stands for the
absent value. -/
def HasTypeArg (h : Hint) (i : Int) (arg : Hint) : Prop :=
  h.typeArg? i = some arg.unwrap ∨ h.typeArg? i = some arg.asClass.unwrap

theorem typeArg?_of_args (hx : h.args[i]? = some x) : h.typeArg? i = some x.unwrap := by
  have hi : ¬(i : Int) < 0 := by omega
  simp only [typeArg?, if_neg hi, Int.toNat_natCast, hx, Option.map_some, Option.getD_some]

theorem hasTypeArg_genericOf (hx : xs[i]? = some x) : (genericOf c xs).HasTypeArg i x := by
  have hargs : (genericOf c xs).args = if c.takesHints then xs.map asClass else xs := rfl
  cases hc : c.takesHints with
  | false =>
      refine .inl (typeArg?_of_args ?_)
      simp only [hargs, hc, Bool.false_eq_true, if_false, hx]
  | true =>
      refine .inr (typeArg?_of_args ?_)
      simp only [hargs, hc, if_true, List.getElem?_map, hx, Option.map_some]

end Hint

/-! ## Hints with an adapter -/

namespace Registry

variable {registry : Registry} {h : Hint} {a : Adapter}

/-- Only a class has an adapter, so there is nothing but the class under the annotations. -/
theorem flat_of_findOrigin? (hfind : registry.findOrigin? h = some a) : h.Flat := by
  unfold findOrigin? findHint? at hfind
  cases h with
  | annotated inner ms =>
      cases inner with
      | annotated _ _ => simp [Hint.origin, Hint.unwrap, Hint.class?] at hfind
      | _ => rfl
  | _ => rfl

theorem asClass_of_findOrigin? (hfind : registry.findOrigin? h = some a) : h.asClass = h := by
  cases h with
  | nothing => cases hfind
  | _ => rfl

theorem findOrigin?_unwrap (hflat : h.Flat) : registry.findOrigin? h.unwrap = registry.findOrigin? h := by
  unfold findOrigin? Hint.origin
  rw [hflat]

end Registry

end HttpContract
