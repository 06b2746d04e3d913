import HttpContract.Proofs.Json.Grammar
import Mathlib.Tactic.SplitIfs

/-!
# Texts in documents

Every text is written between marks, and read back as itself only. A character stands for itself, is named by a
letter after a backslash, or is given by its units.
-/

namespace HttpContract.Json

variable {s r : List Char} {c d : Char}

/-! ## Units -/

theorem hexValue?_hexDigit {n : Nat} (h : n < 16) : hexValue? (Text.hexDigit n) = some n := by
  have hall : ∀ n < 16, hexValue? (Text.hexDigit n) = some n := by decide
  exact hall n h

theorem unit?_hexDigits {u : Nat} (h : u < 0x10000) : unit? (Text.hexDigits 4 u) = some u := by
  have hdigits : Text.hexDigits 4 u = [Text.hexDigit (u / 16 / 16 / 16 % 16), Text.hexDigit (u / 16 / 16 % 16),
      Text.hexDigit (u / 16 % 16), Text.hexDigit (u % 16)] := rfl
  have hvalue : ∀ n, hexValue? (Text.hexDigit (n % 16)) = some (n % 16) := fun n =>
    hexValue?_hexDigit (Nat.mod_lt _ (by decide))
  simp only [hdigits, unit?, hvalue, Option.bind_eq_bind, Option.bind_some, Option.pure_def, Option.some.injEq]
  omega

theorem length_of_unit? {ds : List Char} {n : Nat} (h : unit? ds = some n) : ds.length = 4 := by
  unfold unit? at h
  split at h
  · rfl
  · cases h

/-! ## Characters -/

theorem ReadsChar.of_plain (hc : c ≠ Text.backslash) (h : ReadsChar (c :: s) d r) : d = c ∧ r = s := by
  generalize ht : c :: s = t at h
  cases h <;> cases ht
  · exact ⟨rfl, rfl⟩
  all_goals exact absurd rfl hc

theorem mark_ne_u : ∀ p ∈ shortEscapes, p.1 ≠ 'u' := by decide

/-- A character after a backslash stands for one other, unless it announces a unit. -/
theorem ReadsChar.of_short {mark : Char} (hmark : (mark, c) ∈ shortEscapes)
    (h : ReadsChar (Text.backslash :: mark :: s) d r) : d = c ∧ r = s := by
  have hunique : ∀ p ∈ shortEscapes, ∀ q ∈ shortEscapes, p.1 = q.1 → p.2 = q.2 := by decide
  generalize ht : Text.backslash :: mark :: s = t at h
  cases h with
  | plain _ _ hne =>
      cases ht
      exact absurd rfl hne
  | short h =>
      cases ht
      exact ⟨hunique _ h _ hmark rfl, rfl⟩
  | _ =>
      cases ht
      exact absurd rfl (mark_ne_u _ hmark)

theorem unit?_append_inj {ds es : List Char} {m n : Nat} (h : unit? ds = some m) (h' : unit? es = some n)
    (heq : ds ++ s = es ++ r) : m = n ∧ s = r := by
  obtain ⟨rfl, hrest⟩ := List.append_inj heq ((length_of_unit? h).trans (length_of_unit? h').symm)
  exact ⟨Option.some.inj (h.symm.trans h'), hrest⟩

/-- A unit stands for a character, or it is the first of two. -/
theorem ReadsChar.of_unit {ds : List Char} {n : Nat} (hds : unit? ds = some n)
    (h : ReadsChar (Text.backslash :: 'u' :: (ds ++ s)) d r) :
    ((n < 0xD800 ∨ 0xDFFF < n) ∧ d = Char.ofNat n ∧ r = s) ∨
      ((0xD800 ≤ n ∧ n < 0xDC00) ∧ ∃ es low, unit? es = some low ∧ s = Text.backslash :: 'u' :: (es ++ r) ∧
        d = Char.ofNat (0x10000 + (n - 0xD800) * 0x400 + (low - 0xDC00))) := by
  generalize ht : Text.backslash :: 'u' :: (ds ++ s) = t at h
  cases h with
  | plain _ _ hne =>
      cases ht
      exact absurd rfl hne
  | short h =>
      cases ht
      exact absurd rfl (mark_ne_u _ h)
  | unit h hscalar =>
      obtain ⟨rfl, rfl⟩ := unit?_append_inj hds h (by simpa using ht)
      exact .inl ⟨hscalar, rfl, rfl⟩
  | pair h h' hhigh hlow =>
      obtain ⟨rfl, rfl⟩ := unit?_append_inj hds h (by simpa using ht)
      exact .inr ⟨hhigh, _, _, h', rfl, rfl⟩

theorem toNat_scalar (c : Char) : c.toNat < 0xD800 ∨ 0xDFFF < c.toNat ∧ c.toNat < 0x110000 := c.valid

/-- A character is one unit, or a high one and a low one. -/
theorem units_cases (c : Char) :
    (units c = [c.toNat] ∧ c.toNat < 0x10000) ∨
      ∃ high low, units c = [high, low] ∧ (0xD800 ≤ high ∧ high < 0xDC00) ∧ (0xDC00 ≤ low ∧ low < 0xE000) ∧
        c.toNat = 0x10000 + (high - 0xD800) * 0x400 + (low - 0xDC00) := by
  have hscalar := toNat_scalar c
  by_cases hsmall : c.toNat < 0x10000
  · exact .inl ⟨if_pos hsmall, hsmall⟩
  · exact .inr ⟨_, _, if_neg hsmall, by omega, by omega, by omega⟩

/-- The units of a character are read as that character. -/
theorem readsChar_units (c : Char) (s : List Char) :
    ReadsChar (((units c).flatMap fun u => Text.backslash :: 'u' :: Text.hexDigits 4 u) ++ s) c s := by
  obtain ⟨heq, hsmall⟩ | ⟨high, low, heq, hhigh, hlow, hc⟩ := units_cases c
  · have h := ReadsChar.unit (r := s) (unit?_hexDigits hsmall) ((toNat_scalar c).imp_right And.left)
    rw [Char.ofNat_toNat] at h
    simpa [heq] using h
  · have h := ReadsChar.pair (r := s) (unit?_hexDigits (by omega)) (unit?_hexDigits (by omega)) hhigh hlow
    rw [← hc, Char.ofNat_toNat] at h
    simpa [heq] using h

theorem ReadsChar.of_units (h : ReadsChar
    (((units c).flatMap fun u => Text.backslash :: 'u' :: Text.hexDigits 4 u) ++ s) d r) : d = c ∧ r = s := by
  obtain ⟨heq, hsmall⟩ | ⟨high, low, heq, hhigh, hlow, hc⟩ := units_cases c
  · have h' : ReadsChar (Text.backslash :: 'u' :: (Text.hexDigits 4 c.toNat ++ s)) d r := by simpa [heq] using h
    have hscalar := toNat_scalar c
    obtain ⟨-, rfl, rfl⟩ | ⟨hhigh, -⟩ := h'.of_unit (unit?_hexDigits hsmall)
    · exact ⟨Char.ofNat_toNat c, rfl⟩
    · omega
  · have h' : ReadsChar (Text.backslash :: 'u' :: (Text.hexDigits 4 high ++
        Text.backslash :: 'u' :: (Text.hexDigits 4 low ++ s))) d r := by simpa [heq] using h
    have hfirst : unit? (Text.hexDigits 4 high) = some high := unit?_hexDigits (by omega)
    have hsecond : unit? (Text.hexDigits 4 low) = some low := unit?_hexDigits (by omega)
    obtain ⟨hscalar, -⟩ | ⟨-, es, low', hes, hrest, hd⟩ := h'.of_unit hfirst
    · omega
    · obtain ⟨rfl, rfl⟩ := unit?_append_inj hsecond hes (by simpa using hrest)
      rw [← hc, Char.ofNat_toNat] at hd
      exact ⟨hd, rfl⟩

/-- How a character is written: after a backslash, as itself, or in its units. -/
theorem escape_cases (c : Char) :
    (∃ mark, (mark, c) ∈ shortEscapes ∧ escape c = [Text.backslash, mark]) ∨
      ((0x20 ≤ c.toNat ∧ c.toNat < 0x7F) ∧ c ≠ Text.doubleMark ∧ c ≠ Text.backslash ∧ escape c = [c]) ∨
      escape c = (units c).flatMap fun u => Text.backslash :: 'u' :: Text.hexDigits 4 u := by
  unfold escape
  split_ifs with hmark hfeed hreturn htab hback hform hprintable
  · obtain rfl | rfl : c = Text.doubleMark ∨ c = Text.backslash := by simpa using hmark
    all_goals exact .inl ⟨_, by decide, rfl⟩
  · subst hfeed
    exact .inl ⟨_, by decide, rfl⟩
  · subst hreturn
    exact .inl ⟨_, by decide, rfl⟩
  · subst htab
    exact .inl ⟨_, by decide, rfl⟩
  · subst hback
    exact .inl ⟨_, by decide, rfl⟩
  · subst hform
    exact .inl ⟨_, by decide, rfl⟩
  · simp_all
  · exact .inr (.inr rfl)

theorem readsChar_escape (c : Char) (s : List Char) : ReadsChar (escape c ++ s) c s := by
  obtain ⟨mark, hmark, heq⟩ | ⟨hprintable, hne, hne', heq⟩ | heq := escape_cases c
  · rw [heq]
    exact .short hmark
  · rw [heq]
    exact .plain hprintable.1 hne hne'
  · rw [heq]
    exact readsChar_units c s

theorem ReadsChar.of_escape (h : ReadsChar (escape c ++ s) d r) : d = c ∧ r = s := by
  obtain ⟨mark, hmark, heq⟩ | ⟨-, -, hne, heq⟩ | heq := escape_cases c
  · rw [heq] at h
    exact h.of_short hmark
  · rw [heq] at h
    exact h.of_plain hne
  · rw [heq] at h
    exact h.of_units

/-! ## Texts -/

theorem readsChars_text (cs s : List Char) : ReadsChars (cs.flatMap escape ++ Text.doubleMark :: s) cs s := by
  induction cs with
  | nil => exact .nil
  | cons c cs ih =>
      rw [List.flatMap_cons, List.append_assoc]
      exact .cons (readsChar_escape c _) ih

theorem not_readsChar_mark : ¬ ReadsChar (Text.doubleMark :: s) d r := by
  intro h
  generalize ht : Text.doubleMark :: s = t at h
  cases h with
  | plain _ hne _ =>
      cases ht
      exact absurd rfl hne
  | _ => cases ht

theorem escape_append_ne (c : Char) (s t : List Char) : escape c ++ s ≠ Text.doubleMark :: t := by
  intro h
  have hread := readsChar_escape c s
  rw [h] at hread
  exact not_readsChar_mark hread

theorem ReadsChars.of_text {cs ds : List Char}
    (h : ReadsChars (cs.flatMap escape ++ Text.doubleMark :: s) ds r) : ds = cs ∧ r = s := by
  -- on the written characters: no escape begins with the closing mark, so reading cannot end early
  induction cs generalizing ds with
  | nil =>
      rw [List.flatMap_nil, List.nil_append] at h
      generalize ht : Text.doubleMark :: s = t at h
      cases h with
      | nil =>
          cases ht
          exact ⟨rfl, rfl⟩
      | cons first others =>
          subst ht
          exact absurd first not_readsChar_mark
  | cons c cs ih =>
      rw [List.flatMap_cons, List.append_assoc] at h
      generalize ht : escape c ++ (cs.flatMap escape ++ Text.doubleMark :: s) = t at h
      cases h with
      | nil => exact absurd ht (escape_append_ne c _ _)
      | cons first others =>
          subst ht
          obtain ⟨rfl, rfl⟩ := first.of_escape
          obtain ⟨rfl, rfl⟩ := ih others
          exact ⟨rfl, rfl⟩

theorem text_append (x : String) (s : List Char) :
    text x ++ s = Text.doubleMark :: (x.toList.flatMap escape ++ Text.doubleMark :: s) := by
  simp [text]

theorem readsText_text (x : String) (s : List Char) : ReadsText (text x ++ s) x s :=
  ⟨_, text_append x s, readsChars_text _ _⟩

theorem ReadsText.of_text {x y : String} (h : ReadsText (text x ++ s) y r) : y = x ∧ r = s := by
  obtain ⟨t, ht, h⟩ := h
  rw [text_append] at ht
  cases ht
  obtain ⟨hchars, hrest⟩ := h.of_text
  exact ⟨String.toList_inj.mp hchars, hrest⟩

end HttpContract.Json
