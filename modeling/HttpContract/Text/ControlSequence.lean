/-!
# Control sequences

A terminal takes an escape character, an opening bracket, some parameters and a letter for a command and
shows nothing for it. `withoutSequences` leaves such sequences out of a text; what they stand between
does not join into new ones.
-/

namespace HttpContract.Text

/-- Digits and the marks between them. -/
def isSequenceParameter (c : Char) : Bool := c.isDigit || c == ';' || c == '?'

/-- The rest of a text after a sequence that it starts with. -/
def afterSequence? : List Char → Option (List Char)
  | '\x1b' :: '[' :: rest =>
    match rest.dropWhile isSequenceParameter with
    | c :: rest => if c.isAlpha then some rest else none
    | [] => none
  | _ => none

theorem length_of_afterSequence? {s r : List Char} (h : afterSequence? s = some r) :
    r.length < s.length := by
  unfold afterSequence? at h
  split at h
  · next rest =>
    split at h
    · next c more hmore =>
      have hle : (rest.dropWhile isSequenceParameter).length ≤ rest.length :=
        (List.dropWhile_suffix _).length_le
      split at h
      · cases h
        simp only [hmore, List.length_cons] at hle ⊢
        omega
      · cases h
    · cases h
  · cases h

/-- A text as a terminal shows it, without its sequences. -/
def withoutSequences (s : List Char) : List Char :=
  match _h : afterSequence? s with
  | some rest => withoutSequences rest
  | none =>
    match s with
    | [] => []
    | c :: rest => c :: withoutSequences rest
termination_by s.length
decreasing_by
  · exact length_of_afterSequence? _h
  · simp

/-- A text without escape characters is shown as it is. -/
theorem withoutSequences_of_notMem {s : List Char} (h : '\x1b' ∉ s) : withoutSequences s = s := by
  induction s with
  | nil => rw [withoutSequences.eq_def]; rfl
  | cons c rest ih =>
    simp only [List.mem_cons, not_or] at h
    have hnone : afterSequence? (c :: rest) = none := by
      unfold afterSequence?
      split
      · next heq => simp only [List.cons.injEq] at heq; exact absurd heq.1.symm h.1
      · rfl
    rw [withoutSequences.eq_def]
    split
    · next heq => simp [hnone] at heq
    · simp [ih h.2]

end HttpContract.Text
