import HttpContract.Proofs.Template.Override
import Mathlib.Data.String.Basic

/-!
# Addresses of two fragments

An interface and a method may each declare a fragment of the address. The two are joined with one slash: at
most one is taken from the end of the first and at most one from the beginning of the second, so that it
does not matter on which side of the joint a slash is written. The address bears on nothing else in the
template.
-/

namespace HttpContract

namespace Template

variable {a b : String}

/-! ## Fragments -/

/-- The fragment of an optional declaration, empty where there is none. -/
def fragment (e : Option Exchange) : String := (e.map Exchange.url).getD ""

/-- The declaration with another fragment. -/
def withFragment (e : Option Exchange) (url : String) : Option Exchange := some { e.getD {} with url }

/-- The text without one slash at its end, if there is one. -/
def withoutTrailing (a : String) : String :=
  if a.toList.getLast? = some '/' then String.ofList a.toList.dropLast else a

/-- The text without one slash at its beginning, if there is one. -/
def withoutLeading (b : String) : String :=
  if b.toList.head? = some '/' then String.ofList b.toList.tail else b

/-- The address that the fragments of an interface and of a method make up. -/
def addressOf (a b : String) : Option String :=
  match Text.isBlankText a, Text.isBlankText b with
  | true, true => none
  | false, true => some a
  | true, false => some b
  | false, false => some (withoutTrailing a ++ "/" ++ withoutLeading b)

/-! ## The joint -/

theorem withoutTrailing_of_ne (h : a.toList.getLast? ≠ some '/') : withoutTrailing a = a := if_neg h

theorem withoutLeading_of_ne (h : b.toList.head? ≠ some '/') : withoutLeading b = b := if_neg h

theorem withoutTrailing_append (a : String) : withoutTrailing (a ++ "/") = a := by
  have hslash : "/".toList = ['/'] := rfl
  rw [withoutTrailing, String.toList_append, hslash, if_pos (List.getLast?_concat ..),
    List.dropLast_concat, String.ofList_toList]

theorem withoutLeading_append (b : String) : withoutLeading ("/" ++ b) = b := by
  have hslash : "/".toList = ['/'] := rfl
  rw [withoutLeading, String.toList_append, hslash, List.cons_append, List.nil_append, List.head?_cons,
    if_pos rfl, List.tail_cons, String.ofList_toList]

theorem withoutTrailing_append_slash (h : a.toList.getLast? = some '/') : withoutTrailing a ++ "/" = a := by
  have hslash : "/".toList = ['/'] := rfl
  rw [← String.toList_inj, String.toList_append, hslash, withoutTrailing, if_pos h, String.toList_ofList]
  exact List.dropLast_append_getLast? '/' h

theorem slash_append_withoutLeading (h : b.toList.head? = some '/') : "/" ++ withoutLeading b = b := by
  have hslash : "/".toList = ['/'] := rfl
  rw [← String.toList_inj, String.toList_append, hslash, withoutLeading, if_pos h, String.toList_ofList]
  exact List.cons_head?_tail h

/-- Whichever of the two slashes are there, one is left. -/
theorem joinFragments_eq (a b : String) :
    joinFragments a b = withoutTrailing a ++ "/" ++ withoutLeading b := by
  cases ha : a.toList.getLast? == some '/' with
  | true =>
      have hfront := withoutTrailing_append_slash (beq_iff_eq.mp ha)
      cases hb : b.toList.head? == some '/' with
      | true => simp only [joinFragments, ha, hb, hfront, withoutLeading, if_pos (beq_iff_eq.mp hb)]
      | false =>
          have hback := withoutLeading_of_ne (beq_eq_false_iff_ne.mp hb)
          simp only [joinFragments, ha, hb, hfront, hback]
  | false =>
      have hfront := withoutTrailing_of_ne (beq_eq_false_iff_ne.mp ha)
      cases hb : b.toList.head? == some '/' with
      | true =>
          have hback := slash_append_withoutLeading (beq_iff_eq.mp hb)
          simp only [joinFragments, ha, hb, hfront, String.append_assoc, hback]
      | false =>
          have hback := withoutLeading_of_ne (beq_eq_false_iff_ne.mp hb)
          simp only [joinFragments, ha, hb, hfront, hback]

/-! ## Addresses of templates -/

variable {method type : Option Exchange}

theorem declared?_url (e : Option Exchange) :
    declared? Exchange.url e = if Text.isBlankText (fragment e) then none else some (fragment e) := by
  cases e <;> rfl

theorem url?_eq (method type : Option Exchange) :
    url? method type = addressOf (fragment type) (fragment method) := by
  rw [url?, declared?_url, declared?_url, addressOf]
  cases Text.isBlankText (fragment type) with
  | true => cases Text.isBlankText (fragment method) <;> rfl
  | false =>
      cases Text.isBlankText (fragment method) with
      | true => rfl
      | false => simp [joinFragments_eq]

theorem said?_withFragment (e : Option Exchange) (url : String) (part : Part) :
    part.said? (withFragment e url) = part.said? e := by
  rw [← Part.said?_getD e]
  cases part <;> rfl

/-- The address is the only part of a template that fragments bear on. -/
theorem compile_withFragment (method type : Option Exchange) (a b : String) :
    compile (withFragment method b) (withFragment type a) =
      (compile method type).map ({ · with url := addressOf a b }) := by
  have hurl : url? (withFragment method b) (withFragment type a) = addressOf a b := url?_eq _ _
  rw [← hurl]
  refine compile_eq_map fun part => ?_
  rw [Part.effective?, Part.effective?, said?_withFragment, said?_withFragment]

/-! ## Slashes at the joint -/

theorem isBlankText_append_slash (a : String) : Text.isBlankText (a ++ "/") = false := by
  have hslash : "/".toList = ['/'] := rfl
  have hmark : Text.isBlank '/' = false := by decide
  simp [Text.isBlankText, hslash, hmark]

theorem isBlankText_slash_append (b : String) : Text.isBlankText ("/" ++ b) = false := by
  have hslash : "/".toList = ['/'] := rfl
  have hmark : Text.isBlank '/' = false := by decide
  simp [Text.isBlankText, hslash, hmark]

theorem addressOf_spelling (ha : Text.isBlankText a = false) (hb : Text.isBlankText b = false)
    (hend : a.toList.getLast? ≠ some '/') (hstart : b.toList.head? ≠ some '/') {a' b' : String}
    (ha' : a' = a ∨ a' = a ++ "/") (hb' : b' = b ∨ b' = "/" ++ b) : addressOf a' b' = addressOf a b := by
  have hfront : Text.isBlankText a' = false ∧ withoutTrailing a' = withoutTrailing a := by
    rcases ha' with rfl | rfl
    · exact ⟨ha, rfl⟩
    · exact ⟨isBlankText_append_slash a, (withoutTrailing_append a).trans (withoutTrailing_of_ne hend).symm⟩
  have hback : Text.isBlankText b' = false ∧ withoutLeading b' = withoutLeading b := by
    rcases hb' with rfl | rfl
    · exact ⟨hb, rfl⟩
    · exact ⟨isBlankText_slash_append b, (withoutLeading_append b).trans (withoutLeading_of_ne hstart).symm⟩
  rw [addressOf, addressOf, hfront.1, hfront.2, hback.1, hback.2, ha, hb]

/-- How the fragments of an interface and of a method are joined. -/
structure JoinsFragments (method type : Option Exchange) : Prop where
  /-- The template is that of the rest of the declarations, with the address of their fragments. -/
  address : compile method type = (compile (withFragment method "") (withFragment type "")).map
    ({ · with url := addressOf (fragment type) (fragment method) })
  /-- A slash at the joint may be left out on either side, or be written on both. -/
  spellings : ∀ a b, Text.isBlankText a = false → Text.isBlankText b = false →
    a.toList.getLast? ≠ some '/' → b.toList.head? ≠ some '/' →
      ∀ a' b', a' = a ∨ a' = a ++ "/" → b' = b ∨ b' = "/" ++ b →
        compile (withFragment method b') (withFragment type a') =
          compile (withFragment method b) (withFragment type a)

theorem joinsFragments (method type : Option Exchange) : JoinsFragments method type where
  address := by
    rw [← url?_eq]
    refine compile_eq_map fun part => ?_
    rw [Part.effective?, Part.effective?, said?_withFragment, said?_withFragment]
  spellings a b ha hb hend hstart a' b' ha' hb' := by
    rw [compile_withFragment, compile_withFragment, addressOf_spelling ha hb hend hstart ha' hb']

end Template

end HttpContract
