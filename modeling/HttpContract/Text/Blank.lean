/-!
# Blank characters

`isBlank` holds of the white space of Unicode together with the separators U+001C to U+001F.
`trim` cuts blanks from both ends of a text. U+200B and U+FEFF are not blank.
-/

namespace HttpContract.Text

/-- White space: horizontal and vertical space, the separators of records, and the space separators. -/
def isBlank (c : Char) : Bool :=
  let n := c.toNat
  (0x09 ≤ n && n ≤ 0x0D) || (0x1C ≤ n && n ≤ 0x20) || n == 0x85 || n == 0xA0 || n == 0x1680
    || (0x2000 ≤ n && n ≤ 0x200A) || n == 0x2028 || n == 0x2029 || n == 0x202F || n == 0x205F
    || n == 0x3000

/-! ## Trimming -/

def trimStart (s : List Char) : List Char := s.dropWhile isBlank

def trimEnd (s : List Char) : List Char := (s.reverse.dropWhile isBlank).reverse

/-- What remains of a text without the blanks at its ends. -/
def trim (s : List Char) : List Char := trimEnd (trimStart s)

/-- A text that says nothing: it is empty or holds only blanks. -/
def isBlankText (s : String) : Bool := s.toList.all isBlank

theorem trimStart_eq_nil_iff {s : List Char} : trimStart s = [] ↔ ∀ c ∈ s, isBlank c = true := by
  induction s with
  | nil => simp [trimStart]
  | cons c r ih =>
    rw [trimStart] at ih
    by_cases h : isBlank c = true <;> simp [trimStart, List.dropWhile, h, ih]

theorem trimEnd_eq_nil_iff {s : List Char} : trimEnd s = [] ↔ ∀ c ∈ s, isBlank c = true := by
  rw [trimEnd, List.reverse_eq_nil_iff, ← trimStart, trimStart_eq_nil_iff]
  simp

theorem trim_eq_nil_iff {s : List Char} : trim s = [] ↔ ∀ c ∈ s, isBlank c = true := by
  induction s with
  | nil => simp [trim, trimStart, trimEnd]
  | cons c r ih =>
    by_cases h : isBlank c = true
    · simpa [trim, trimStart, h] using ih
    · rw [trim, trimEnd_eq_nil_iff]
      simp [trimStart, h]

end HttpContract.Text
