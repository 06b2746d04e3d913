import HttpContract.Text.Blank

/-!
# Runs of characters

A run of characters of one kind ends where the text goes on with another kind, or not at all. A run that
ends so is cut off a text in exactly one way.
-/

namespace HttpContract.Text

variable {p : Char → Bool} {a b r s : List Char} {c : Char}

/-- The text does not go on with a character of the kind. -/
def Stops (p : Char → Bool) (s : List Char) : Prop := ∀ c ∈ s.head?, p c = false

theorem stops_nil : Stops p [] := by intro c h; simp at h

@[simp] theorem stops_cons : Stops p (c :: s) ↔ p c = false := by simp [Stops]

theorem stops_append_of_ne_nil (ha : a ≠ []) : Stops p (a ++ s) ↔ Stops p a := by
  cases a with
  | nil => exact absurd rfl ha
  | cons c a => simp

theorem stops_reverse_append (hb : b ≠ []) : Stops p (a ++ b).reverse ↔ Stops p b.reverse := by
  rw [List.reverse_append, stops_append_of_ne_nil (by simpa using hb)]

/-! ## Cutting off a run -/

theorem takeWhile_append_of_stops (ha : ∀ c ∈ a, p c = true) (hr : Stops p r) :
    (a ++ r).takeWhile p = a := by
  rw [List.takeWhile_append_of_pos ha]
  cases r with
  | nil => simp
  | cons c r => simp [stops_cons.mp hr]

theorem dropWhile_append_of_stops (ha : ∀ c ∈ a, p c = true) (hr : Stops p r) :
    (a ++ r).dropWhile p = r := by
  rw [List.dropWhile_append_of_pos ha]
  cases r with
  | nil => rfl
  | cons c r => simp [stops_cons.mp hr]

/-- Where two runs of one kind end, each is the whole of the other. -/
theorem append_inj_of_stops {a' r' : List Char} (ha : ∀ c ∈ a, p c = true)
    (ha' : ∀ c ∈ a', p c = true) (hr : Stops p r) (hr' : Stops p r') (h : a ++ r = a' ++ r') :
    a = a' ∧ r = r' := by
  have htake := congrArg (List.takeWhile p) h
  have hdrop := congrArg (List.dropWhile p) h
  rw [takeWhile_append_of_stops ha hr, takeWhile_append_of_stops ha' hr'] at htake
  rw [dropWhile_append_of_stops ha hr, dropWhile_append_of_stops ha' hr'] at hdrop
  exact ⟨htake, hdrop⟩

/-! ## Blanks -/

theorem trimStart_append (ha : ∀ c ∈ a, isBlank c = true) (hr : Stops isBlank r) :
    trimStart (a ++ r) = r :=
  dropWhile_append_of_stops ha hr

theorem stops_trimStart (s : List Char) : Stops isBlank (trimStart s) := by
  intro c hc
  have hhead := List.head?_dropWhile_not isBlank s
  rw [trimStart] at hc
  rw [Option.mem_def.mp hc] at hhead
  simpa using hhead

/-- Trimming leaves no blank at the front. -/
theorem stops_trim (s : List Char) : Stops isBlank (trim s) := by
  have hprefix : trim s <+: trimStart s := by
    rw [← List.reverse_suffix, trim, trimEnd, List.reverse_reverse]
    exact List.dropWhile_suffix isBlank
  obtain ⟨r, hr⟩ := hprefix
  cases htrim : trim s with
  | nil => exact stops_nil
  | cons c t =>
    have hstops := stops_trimStart s
    rw [← hr, htrim] at hstops
    exact stops_cons.mpr (stops_cons.mp hstops)

theorem trimStart_of_stops (h : Stops isBlank s) : trimStart s = s :=
  trimStart_append (a := []) (by simp) h

/-- A text whose first and last characters are not blank has nothing to trim. -/
theorem trim_of_stops (hfirst : Stops isBlank s) (hlast : Stops isBlank s.reverse) : trim s = s := by
  have h : (s.reverse).dropWhile isBlank = s.reverse := trimStart_of_stops hlast
  rw [trim, trimStart_of_stops hfirst, trimEnd, h, List.reverse_reverse]

end HttpContract.Text
