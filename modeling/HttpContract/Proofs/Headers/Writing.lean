import HttpContract.Headers

/-!
# Writing header fields

Texts are written as they are, unless ASCII is asked for and one of them is outside it; then the first such
run is reported, that of a name before that of its value. Fields that are added are written in ASCII
together with all the others, one that is set is so only after the fields were read and settled as ASCII.
-/

namespace HttpContract

namespace Headers

variable {h : Headers} {item : String × String} {name value : String}

/-! ## Fields of texts -/

/-- The first run outside ASCII in a name or else in its value. -/
def foreign? (item : String × String) : Option Text.ForeignRun :=
  (Text.outsideAscii? item.1).or (Text.outsideAscii? item.2)

theorem foreign?_eq_none_iff :
    foreign? item = none ↔ Text.outsideAscii? item.1 = none ∧ Text.outsideAscii? item.2 = none :=
  Option.or_eq_none_iff

/-- The field of a name and a value. -/
def field (item : String × String) : HeaderField := HeaderField.make item.1.toUTF8 item.2.toUTF8

/-! ## Adding -/

theorem asciiField_eq (item : String × String) :
    asciiField item =
      match foreign? item with
      | none => .ok (field item)
      | some run => .error (.notAscii run) := by
  simp only [asciiField, foreign?, Encoding.encode]
  cases Text.outsideAscii? item.1 with
  | some run => rfl
  | none =>
      cases Text.outsideAscii? item.2 with
      | some run => rfl
      | none => rfl

theorem mapM_asciiField (items : List (String × String)) :
    items.mapM asciiField =
      match items.findSome? foreign? with
      | none => .ok (items.map field)
      | some run => .error (.notAscii run) := by
  induction items with
  | nil => rfl
  | cons item items ih =>
      rw [List.mapM_cons, asciiField_eq, ih, List.findSome?_cons]
      cases foreign? item with
      | some run => rfl
      | none =>
          cases items.findSome? foreign? with
          | some run => rfl
          | none => rfl

theorem ofItems_eq (items : List (String × String)) :
    ofItems items =
      match items.findSome? foreign? with
      | none => .ok { fields := items.map field }
      | some run => .error (.notAscii run) := by
  rw [ofItems, mapM_asciiField]
  cases items.findSome? foreign? with
  | some run => rfl
  | none => rfl

/-! ## Setting -/

/-- Where the encoding is settled as ASCII, text outside it is refused, and nothing is refused elsewhere. -/
theorem set_eq (h : Headers) (name value : String) :
    h.set name value =
      match if h.encoding = some .ascii then foreign? (name, value) else none with
      | none => .ok { h with fields := replace (field (name, value)) h.fields }
      | some run => .error (.notAscii run) := by
  have hencode : ∀ s, (h.encoding.getD .utf8).encode s =
      match if h.encoding = some .ascii then Text.outsideAscii? s else none with
      | none => .ok s.toUTF8
      | some run => .error run := by
    intro s
    rcases h.encoding with _ | (_ | _)
    · rfl
    · rfl
    · rfl
  simp only [set, hencode]
  -- the name is encoded before the value, so its run is the one that is reported
  by_cases hascii : h.encoding = some .ascii
  · simp only [if_pos hascii, foreign?]
    cases Text.outsideAscii? name with
    | some run => rfl
    | none =>
        cases Text.outsideAscii? value with
        | some run => rfl
        | none => rfl
  · simp only [if_neg hascii]
    rfl

theorem set_of_unread (hunread : h.encoding = none) (name value : String) :
    h.set name value =
      .ok { h with fields := replace (HeaderField.make name.toUTF8 value.toUTF8) h.fields } := by
  rw [set_eq, if_neg (by simp [hunread])]
  rfl

theorem set_of_ascii (hname : Text.outsideAscii? name = none) (hvalue : Text.outsideAscii? value = none) :
    h.set name value =
      .ok { h with fields := replace (HeaderField.make name.toUTF8 value.toUTF8) h.fields } := by
  rw [set_eq, foreign?_eq_none_iff.mpr ⟨hname, hvalue⟩, ite_self]
  rfl

theorem set_of_settled_ascii (hascii : h.encoding = some .ascii)
    (houtside : ¬ (Text.outsideAscii? name = none ∧ Text.outsideAscii? value = none)) :
    ∃ run, h.set name value = .error (.notAscii run) := by
  have hforeign : foreign? (name, value) ≠ none := mt foreign?_eq_none_iff.mp houtside
  obtain ⟨run, hrun⟩ := Option.ne_none_iff_exists'.mp hforeign
  exact ⟨run, by rw [set_eq, if_pos hascii, hrun]⟩

end Headers

end HttpContract
