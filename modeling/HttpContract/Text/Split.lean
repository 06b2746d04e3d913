/-!
# Splitting texts

`splitOn` cuts a text at every occurrence of a mark, `joinWith` puts the pieces together again
(`joinWith_splitOn`), and `cutAt?` cuts at the first occurrence only.
-/

namespace HttpContract.Text

/-- The pieces between the marks; there is always at least one. -/
def splitOn (mark : Char) : List Char → List (List Char)
  | [] => [[]]
  | c :: rest =>
    match splitOn mark rest with
    | [] => [[c]]
    | piece :: more => if c = mark then [] :: piece :: more else (c :: piece) :: more

def joinWith (mark : Char) : List (List Char) → List Char
  | [] => []
  | [piece] => piece
  | piece :: more => piece ++ mark :: joinWith mark more

/-- The texts before and after the first mark. -/
def cutAt? (mark : Char) (s : List Char) : Option (List Char × List Char) :=
  match s.dropWhile (· != mark) with
  | [] => none
  | _ :: rest => some (s.takeWhile (· != mark), rest)

theorem splitOn_ne_nil (mark : Char) (s : List Char) : splitOn mark s ≠ [] := by
  cases s with
  | nil => simp [splitOn]
  | cons c rest =>
    simp only [splitOn]
    split
    · simp
    · split <;> simp

theorem joinWith_cons {mark : Char} {piece : List Char} {more : List (List Char)} (h : more ≠ []) :
    joinWith mark (piece :: more) = piece ++ mark :: joinWith mark more := by
  cases more with
  | nil => exact absurd rfl h
  | cons => rfl

theorem joinWith_splitOn (mark : Char) (s : List Char) : joinWith mark (splitOn mark s) = s := by
  induction s with
  | nil => rfl
  | cons c rest ih =>
    simp only [splitOn]
    split
    · next h => exact absurd h (splitOn_ne_nil mark rest)
    · next piece more h =>
      rw [h] at ih
      split
      · next hc => rw [joinWith_cons (by simp), ih, hc]; rfl
      · cases more with
        | nil => simpa [joinWith] using ih
        | cons => simpa [joinWith] using ih

/-- The text before the first mark has none. -/
theorem cutAt?_eq_some_iff {mark : Char} {s front back : List Char} :
    cutAt? mark s = some (front, back) ↔ s = front ++ mark :: back ∧ mark ∉ front := by
  unfold cutAt?
  constructor
  · intro h
    have hall := List.all_takeWhile (p := (· != mark)) (l := s)
    have hhead := List.head?_dropWhile_not (· != mark) s
    have hparts := List.takeWhile_append_dropWhile (p := (· != mark)) (l := s)
    split at h
    · cases h
    · next c rest hrest =>
      cases h
      rw [hrest] at hhead hparts
      have hc : c = mark := by simpa using hhead
      refine ⟨by rw [← hc] at hparts ⊢; exact hparts.symm, fun hmem => ?_⟩
      simpa using List.all_eq_true.mp hall mark hmem
  · rintro ⟨rfl, hfront⟩
    have hne : ∀ c ∈ front, (c != mark) = true := fun c hc => bne_iff_ne.mpr fun h => hfront (h ▸ hc)
    rw [List.dropWhile_append_of_pos hne, List.takeWhile_append_of_pos hne]
    simp

/-- The pieces of a text as texts. -/
def pieces (mark : Char) (s : String) : List String := (splitOn mark s.toList).map String.ofList

end HttpContract.Text
