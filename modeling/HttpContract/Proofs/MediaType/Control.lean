import HttpContract.Proofs.MediaType.RoundTrip

/-!
# Control characters in media types

Tokens and marks are printable, so the text of a media type holds a control character only where a
parameter value does. Such a value was read between quotes: outside them a control character can stand only
as a blank, and blanks are not written again.
-/

namespace HttpContract.MediaType

variable {c : Char}

/-- A control character of ASCII; the one after the printable characters is left out. -/
def IsControl (c : Char) : Prop := c.toNat < 0x20

theorem IsControl.ne_of_le (h : IsControl c) {d : Char} (hd : 0x20 ≤ d.toNat) : c ≠ d := by
  rintro rfl
  exact absurd h (by simpa [IsControl] using hd)

/-! ## In what is written -/

theorem not_mem_of_isToken (hc : IsControl c) {s : List Char} (hs : isToken s = true) : c ∉ s := by
  intro hmem
  have hrange := toNat_of_isTokenChar (Token.isTokenChar_of_mem (t := ⟨s, hs⟩) hmem)
  unfold IsControl at hc
  omega

theorem mem_escape_iff (hc : IsControl c) {d : Char} : c ∈ escape d ↔ c = d := by
  have hbackslash : c ≠ Text.backslash := hc.ne_of_le (by decide)
  unfold escape
  split <;> simp [hbackslash]

theorem mem_writeValue_iff (hc : IsControl c) {v : List Char} : c ∈ writeValue v ↔ c ∈ v := by
  have hmark : c ≠ Text.doubleMark := hc.ne_of_le (by decide)
  unfold writeValue
  split
  · rfl
  · simp [mem_escape_iff hc, hmark]

theorem mem_writeParameter_iff (hc : IsControl c) {p : String × String}
    (hname : isToken p.1.toList = true) : c ∈ writeParameter p ↔ c ∈ p.2.toList := by
  have hsemicolon : c ≠ ';' := hc.ne_of_le (by decide)
  have hequals : c ≠ '=' := hc.ne_of_le (by decide)
  simp [writeParameter, mem_writeValue_iff hc, not_mem_of_isToken hc hname, hsemicolon, hequals]

theorem Canonical.mem_write_iff {m : MediaType} (h : m.Canonical) (hc : IsControl c) :
    c ∈ m.write ↔ ∃ p ∈ m.parameters, c ∈ p.2.toList := by
  have hslash : c ≠ '/' := hc.ne_of_le (by decide)
  simp only [write, List.mem_append, List.mem_cons, List.mem_flatMap, hslash, false_or,
    not_mem_of_isToken hc h.type.1, not_mem_of_isToken hc h.subtype.1]
  exact exists_congr fun p =>
    and_congr_right fun hp => mem_writeParameter_iff hc (h.names p hp).1

/-! ## In what was read -/

/-- The text holds the character between the quotes of a parameter value, as itself or after a
backslash. -/
def Quotes (s : List Char) (c : Char) : Prop :=
  ∃ d : Derivation, d.text = s ∧ ∃ p ∈ d.parameters, ∃ cs, p.value = .quoted cs ∧
    ∃ q ∈ cs, q.char = c

theorem WrittenValue.mem_content_iff (hc : IsControl c) {v : WrittenValue} :
    c ∈ v.content ↔ ∃ cs, v = .quoted cs ∧ ∃ q ∈ cs, q.char = c := by
  cases v with
  | token t => simpa [content] using not_mem_of_isToken hc t.isToken_chars
  | quoted cs => simp [content]

theorem WrittenParameter.mem_parameter_iff (hc : IsControl c) {p : WrittenParameter} :
    c ∈ p.parameter.2.toList ↔ ∃ cs, p.value = .quoted cs ∧ ∃ q ∈ cs, q.char = c := by
  rw [parameter, String.toList_ofList, WrittenValue.mem_content_iff hc]

theorem Derivation.exists_mem_parameters_iff (hc : IsControl c) {d : Derivation} :
    (∃ p ∈ d.mediaType.parameters, c ∈ p.2.toList) ↔
      ∃ p ∈ d.parameters, ∃ cs, p.value = .quoted cs ∧ ∃ q ∈ cs, q.char = c := by
  constructor
  · rintro ⟨_, hread, hmem⟩
    obtain ⟨p, hp, rfl⟩ := List.mem_map.mp hread
    exact ⟨p, hp, (WrittenParameter.mem_parameter_iff hc).mp hmem⟩
  · rintro ⟨p, hp, hquoted⟩
    exact ⟨_, List.mem_map_of_mem hp, (WrittenParameter.mem_parameter_iff hc).mpr hquoted⟩

theorem Denotes.quotes_iff {s : List Char} {m : MediaType} (h : Denotes s m) (hc : IsControl c) :
    Quotes s c ↔ ∃ p ∈ m.parameters, c ∈ p.2.toList := by
  rcases h with ⟨rfl, rfl⟩ | ⟨d, rfl, -, rfl⟩
  · -- A star alone has no derivation.
    constructor
    · rintro ⟨d, hd, -⟩
      exact absurd hd d.text_ne_star
    · rintro ⟨p, hp, -⟩
      cases hp
  · rw [Derivation.exists_mem_parameters_iff hc]
    constructor
    · rintro ⟨d', hd', hquoted⟩
      rwa [Derivation.text_injective hd'] at hquoted
    · exact fun hquoted => ⟨d, rfl, hquoted⟩

/-- A control character is written of a media type exactly if it was quoted where the media type was
read. -/
theorem mem_text_iff_quotes {text : String} {m : MediaType} (h : parse text = .ok m) (hc : IsControl c) :
    c ∈ m.text.toList ↔ Quotes (Text.trim text.toList) c := by
  have hdenotes := denotes_of_parse h
  rw [hdenotes.quotes_iff hc, MediaType.text, String.toList_ofList, hdenotes.canonical.mem_write_iff hc]

end HttpContract.MediaType
