import HttpContract.Proofs.Json.Writing

/-!
# The characters of documents

Documents are written in line feeds and the printable characters of ASCII. A terminal shows them as they are.
-/

namespace HttpContract.Json

variable {c d : Char}

def isShown (c : Char) : Bool := c = '\n' || (0x20 ≤ c.toNat && c.toNat < 0x7F)

/-! ## Numbers -/

theorem isShown_of_isDigit (h : c.isDigit = true) : isShown c = true := by
  delta Char.isDigit at h
  simp only [Bool.and_eq_true, decide_eq_true_eq, UInt32.le_iff_toNat_le, ge_iff_le, Char.toNat_val,
    Char.reduceToNat] at h
  simp [isShown]
  omega

theorem isShown_of_isNumberChar (h : isNumberChar c = true) : isShown c = true := by
  simp only [isNumberChar, Bool.or_eq_true, decide_eq_true_eq] at h
  obtain ((((h | rfl) | rfl) | rfl) | rfl) | rfl := h
  · exact isShown_of_isDigit h
  all_goals rfl

theorem isNumberChar_of_mem_digits {ds : DigitRun} (h : c ∈ ds.chars) : isNumberChar c = true := by
  simp [isNumberChar, ds.isDigit_chars c h]

theorem isNumberChar_of_mem_exponent {e : WrittenExponent} (h : c ∈ e.text) : isNumberChar c = true := by
  simp only [WrittenExponent.text, List.mem_cons, List.mem_append] at h
  obtain rfl | h | h := h
  · cases e.capital <;> rfl
  · cases hsign : e.sign <;> simp_all [Sign.text, isNumberChar]
  · exact isNumberChar_of_mem_digits h

theorem isNumberChar_of_mem_text {w : WrittenNumber} (h : c ∈ w.text) : isNumberChar c = true := by
  simp only [WrittenNumber.text, List.mem_append] at h
  obtain h | h | h | h := h
  · cases hsign : w.negative <;> simp_all [isNumberChar]
  · exact isNumberChar_of_mem_digits h
  · cases hfraction : w.fraction with
    | none => simp [hfraction, WrittenNumber.fractionText] at h
    | some ds =>
        simp only [hfraction, WrittenNumber.fractionText, List.mem_cons] at h
        obtain rfl | h := h
        · rfl
        · exact isNumberChar_of_mem_digits h
  · cases hexponent : w.exponent with
    | none => simp [hexponent, WrittenNumber.exponentText] at h
    | some e =>
        rw [hexponent] at h
        exact isNumberChar_of_mem_exponent h

theorem isShown_of_mem_number {x : Binary64} (hproper : x.IsNumber) (h : c ∈ number x) : isShown c = true := by
  cases x with
  | nan => exact List.all_eq_true.mp (show (number .nan).all isShown = true from rfl) c h
  | infinity negative =>
      have hall : (number (.infinity negative)).all isShown = true := by cases negative <;> rfl
      exact List.all_eq_true.mp hall c h
  | finite negative m e =>
      obtain ⟨w, htext, -⟩ := exists_written_finite negative hproper
      rw [← htext] at h
      exact isShown_of_isNumberChar (isNumberChar_of_mem_text h)

/-! ## Texts -/

theorem isShown_of_mem_hexDigits {width n : Nat} (h : c ∈ Text.hexDigits width n) : isShown c = true := by
  induction width generalizing n with
  | zero => cases h
  | succ width ih =>
      rw [Text.hexDigits, List.mem_append, List.mem_singleton] at h
      obtain h | rfl := h
      · exact ih h
      · have hall : ∀ d < 16, isShown (Text.hexDigit d) = true := by decide
        exact hall _ (Nat.mod_lt n (by decide))

theorem isShown_of_mem_escape (h : d ∈ escape c) : isShown d = true := by
  obtain ⟨mark, hmark, heq⟩ | ⟨hprintable, -, -, heq⟩ | heq := escape_cases c
  · have hall : ∀ p ∈ shortEscapes, isShown p.1 = true := by decide
    rw [heq] at h
    simp only [List.mem_cons, List.not_mem_nil, or_false] at h
    obtain rfl | rfl := h
    · rfl
    · exact hall _ hmark
  · rw [heq, List.mem_singleton] at h
    subst h
    simp [isShown, hprintable]
  · rw [heq, List.mem_flatMap] at h
    obtain ⟨u, -, h⟩ := h
    simp only [List.mem_cons] at h
    obtain rfl | rfl | h := h
    · rfl
    · rfl
    · exact isShown_of_mem_hexDigits h

theorem isShown_of_mem_text {x : String} (h : c ∈ text x) : isShown c = true := by
  simp only [text, List.mem_append, List.mem_cons, List.mem_flatMap, List.not_mem_nil, or_false] at h
  obtain (rfl | ⟨d, -, h⟩) | rfl := h
  · rfl
  · exact isShown_of_mem_escape h
  · rfl

/-! ## Values -/

theorem isShown_of_mem_words {t : List Char} {j : Json} (ht : (t, j) ∈ words) (h : c ∈ t) :
    isShown c = true := by
  have hall : words.all (fun p => p.1.all isShown) = true := rfl
  exact List.all_eq_true.mp (List.all_eq_true.mp hall _ ht) c h

theorem isShown_of_mem_newline {level : Nat} (h : c ∈ newline level) : isShown c = true := by
  simp only [newline, List.mem_cons, List.mem_replicate] at h
  obtain rfl | ⟨-, rfl⟩ := h <;> rfl

theorem isShown_of_mem_block {α : Type} {write : α → List Char} {level : Nat} {x : α} {xs : List α}
    (hpart : ∀ y ∈ x :: xs, ∀ c ∈ write y, isShown c = true) (h : c ∈ block write level x xs) :
    isShown c = true := by
  induction xs generalizing x with
  | nil =>
      simp only [block, List.mem_append] at h
      obtain h | h | h := h
      · exact isShown_of_mem_newline h
      · exact hpart x (by simp) c h
      · exact isShown_of_mem_newline h
  | cons y ys ih =>
      simp only [block, List.mem_append, List.mem_cons] at h
      obtain h | h | rfl | h := h
      · exact isShown_of_mem_newline h
      · exact hpart x (by simp) c h
      · rfl
      · exact ih (fun z hz => hpart z (List.mem_cons_of_mem _ hz)) h

theorem isShown_of_mem_writeAt {j : Json} {level : Nat} (hproper : IsProper j) (h : c ∈ writeAt level j) :
    isShown c = true := by
  -- by the value: its words, digits and texts are shown, and so are the marks and blanks between its parts
  induction j using induct generalizing level c with
  | null => exact isShown_of_mem_words (j := .null) (by simp [words, writeAt]) h
  | bool b =>
      cases b
      · exact isShown_of_mem_words (j := .bool false) (by simp [words, writeAt]) h
      · exact isShown_of_mem_words (j := .bool true) (by simp [words, writeAt]) h
  | int n =>
      rw [writeAt, ← text_ofInt] at h
      exact isShown_of_isNumberChar (isNumberChar_of_mem_text h)
  | float x => exact isShown_of_mem_number (hproper x .float) h
  | str x => exact isShown_of_mem_text h
  | array xs ih =>
      cases xs with
      | nil =>
          obtain rfl | rfl : c = '[' ∨ c = ']' := by simpa [writeAt] using h
          all_goals rfl
      | cons x xs =>
          rw [writeAt_array, List.mem_cons, List.mem_append, List.mem_singleton] at h
          obtain rfl | h | rfl := h
          · rfl
          · exact isShown_of_mem_block (fun y hy c hc => ih y hy (isProper_item hproper hy) hc) h
          · rfl
  | object fs ih =>
      cases fs with
      | nil =>
          obtain rfl | rfl : c = '\x7b' ∨ c = '\x7d' := by simpa [writeAt] using h
          all_goals rfl
      | cons f fs =>
          rw [writeAt_object, List.mem_cons, List.mem_append, List.mem_singleton] at h
          obtain rfl | h | rfl := h
          · rfl
          · refine isShown_of_mem_block (fun g hg c hc => ?_) h
            rw [writeField, List.mem_append, List.mem_cons, List.mem_cons] at hc
            obtain hc | rfl | rfl | hc := hc
            · exact isShown_of_mem_text hc
            · rfl
            · rfl
            · exact ih g hg (isProper_field hproper hg) hc
          · rfl

end HttpContract.Json
