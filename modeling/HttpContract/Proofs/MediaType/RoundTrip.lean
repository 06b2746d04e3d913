import HttpContract.Proofs.MediaType.Reading

/-!
# Reading what was written

Reading gives canonical media types only, and a canonical media type is read back from its text whatever
its parameter values are. The text of a canonical media type has a derivation without blanks, in which a
value stands between quotes unless it is a token.
-/

namespace HttpContract.MediaType

/-! ## Canonical media types -/

/-- A token without upper-case letters. -/
def IsLowerToken (s : List Char) : Prop := isToken s = true ∧ ∀ c ∈ s, c.isUpper = false

structure Canonical (m : MediaType) : Prop where
  type : IsLowerToken m.type.toList
  subtype : IsLowerToken m.subtype.toList
  names : ∀ p ∈ m.parameters, IsLowerToken p.1.toList
  /-- Every type stands only for every subtype. -/
  wildcard : m.type = "*" → m.subtype = "*"

theorem canonical_all : all.Canonical where
  type := ⟨by decide, by simp [all]⟩
  subtype := ⟨by decide, by simp [all]⟩
  names := by simp [all]
  wildcard := fun _ => rfl

/-! ## Lower case -/

theorem toLower_eq_self {c : Char} (hc : isTokenChar c = true) (hupper : c.isUpper = false) :
    c.toLower = c :=
  forall_isTokenChar (P := fun c => c.isUpper = false → c.toLower = c) (by decide) hc hupper

theorem isTokenChar_toLower {c : Char} (hc : isTokenChar c = true) : isTokenChar c.toLower = true :=
  forall_isTokenChar (P := fun c => isTokenChar c.toLower = true) (by decide) hc

theorem isUpper_toLower {c : Char} (hc : isTokenChar c = true) : c.toLower.isUpper = false :=
  forall_isTokenChar (P := fun c => c.toLower.isUpper = false) (by decide) hc

theorem IsLowerToken.lowerText_eq {s : String} (h : IsLowerToken s.toList) :
    lowerText s.toList = s := by
  let t : Token := ⟨s.toList, h.1⟩
  have hmap : s.toList.map Char.toLower = s.toList.map id :=
    List.map_congr_left fun c hc =>
      toLower_eq_self (Token.isTokenChar_of_mem (t := t) hc) (h.2 c hc)
  rw [lowerText, hmap, List.map_id, String.ofList_toList]

theorem Token.isLowerToken_lowerText (t : Token) : IsLowerToken (lowerText t.chars).toList := by
  rw [lowerText, String.toList_ofList]
  constructor
  · simp only [isToken, Bool.and_eq_true, Bool.not_eq_true', List.isEmpty_eq_false_iff,
      List.all_eq_true, List.mem_map]
    refine ⟨by simpa using t.chars_ne_nil, ?_⟩
    rintro _ ⟨c, hc, rfl⟩
    exact isTokenChar_toLower (isTokenChar_of_mem hc)
  · intro d hd
    obtain ⟨c, hc, rfl⟩ := List.mem_map.mp hd
    exact isUpper_toLower (isTokenChar_of_mem hc)

/-! ## What is read is canonical -/

theorem Derivation.canonical_mediaType {d : Derivation} (h : d.Legal) : d.mediaType.Canonical where
  type := d.type.isLowerToken_lowerText
  subtype := d.subtype.isLowerToken_lowerText
  names := by
    intro p hp
    obtain ⟨w, -, rfl⟩ := List.mem_map.mp hp
    exact w.name.isLowerToken_lowerText
  wildcard := d.legal_iff.mp h

theorem Denotes.canonical {s : List Char} {m : MediaType} (h : Denotes s m) : m.Canonical := by
  rcases h with ⟨-, rfl⟩ | ⟨d, -, hlegal, rfl⟩
  · exact canonical_all
  · exact d.canonical_mediaType hlegal

/-! ## The derivation of what is written -/

/-- A character of a quoted value, after a backslash where it needs one. -/
def QuotedChar.ofChar (c : Char) : QuotedChar :=
  if hmark : c = Text.doubleMark then .escaped c (by rw [hmark]; decide)
  else if hbackslash : c = Text.backslash then .escaped c (by rw [hbackslash]; decide)
  else .plain c hmark hbackslash

theorem QuotedChar.text_ofChar (c : Char) : (ofChar c).text = escape c := by
  unfold ofChar
  split
  · rename_i h; simp [text, escape, h]
  · split
    · rename_i h; simp [text, escape, h]
    · rename_i hm hb; simp [text, escape, hm, hb]

theorem QuotedChar.char_ofChar (c : Char) : (ofChar c).char = c := by
  unfold ofChar
  split
  · rfl
  · split <;> rfl

def WrittenValue.ofChars (v : List Char) : WrittenValue :=
  if h : isToken v = true then .token ⟨v, h⟩ else .quoted (v.map QuotedChar.ofChar)

theorem WrittenValue.text_ofChars (v : List Char) : (ofChars v).text = writeValue v := by
  unfold ofChars writeValue
  split
  · rfl
  · simp [text, List.flatMap_map, QuotedChar.text_ofChar]

theorem WrittenValue.content_ofChars (v : List Char) : (ofChars v).content = v := by
  unfold ofChars
  split
  · rfl
  · simp [content, Function.comp_def, QuotedChar.char_ofChar]

theorem exists_parameters {ps : List (String × String)}
    (h : ∀ p ∈ ps, IsLowerToken p.1.toList) :
    ∃ ws : List WrittenParameter, ws.flatMap WrittenParameter.text = ps.flatMap writeParameter
      ∧ ws.map WrittenParameter.parameter = ps := by
  induction ps with
  | nil => exact ⟨[], rfl, rfl⟩
  | cons p ps ih =>
      have hp : IsLowerToken p.1.toList := h p (by simp)
      obtain ⟨ws, htext, hparameters⟩ := ih fun q hq => h q (by simp [hq])
      refine ⟨⟨.none, ⟨p.1.toList, hp.1⟩, .none, .none, .ofChars p.2.toList, .none⟩ :: ws, ?_, ?_⟩
      · simp [WrittenParameter.text, writeParameter, Blanks.none, WrittenValue.text_ofChars, htext]
      · simp [WrittenParameter.parameter, hp.lowerText_eq, WrittenValue.content_ofChars, hparameters]

theorem Canonical.exists_derivation {m : MediaType} (h : m.Canonical) :
    ∃ d : Derivation, d.text = m.write ∧ d.Legal ∧ d.mediaType = m := by
  obtain ⟨ws, htext, hparameters⟩ := exists_parameters h.names
  let d : Derivation := ⟨⟨m.type.toList, h.type.1⟩, ⟨m.subtype.toList, h.subtype.1⟩, .none, ws⟩
  have hm : d.mediaType = m := by
    cases m
    simp only [d, Derivation.mediaType, h.type.lowerText_eq, h.subtype.lowerText_eq, hparameters]
  refine ⟨d, ?_, ?_, hm⟩
  · simp [d, Derivation.text, write, Blanks.none, htext]
  · rw [d.legal_iff, hm]
    exact h.wildcard

/-! ## Nothing to trim -/

theorem writeValue_ne_nil (v : List Char) : writeValue v ≠ [] := by
  unfold writeValue
  split
  · rename_i h
    exact Token.chars_ne_nil ⟨v, h⟩
  · simp

theorem Token.stops_reverse (t : Token) : Text.Stops Text.isBlank t.chars.reverse := by
  intro c hc
  have hmem := List.mem_reverse.mp (List.mem_of_mem_head? hc)
  exact isBlank_eq_false_of_isTokenChar (isTokenChar_of_mem hmem)

/-- The last character of a value is a token character or the mark that closes it. -/
theorem stops_reverse_writeValue (v : List Char) :
    Text.Stops Text.isBlank (writeValue v).reverse := by
  unfold writeValue
  split
  · rename_i h
    exact Token.stops_reverse ⟨v, h⟩
  · rw [Text.stops_reverse_append (by simp)]
    exact Text.stops_cons.mpr (by decide)

theorem stops_reverse_append_parameters (ps : List (String × String)) {s : List Char}
    (hs : Text.Stops Text.isBlank s.reverse) :
    Text.Stops Text.isBlank (s ++ ps.flatMap writeParameter).reverse := by
  induction ps generalizing s with
  | nil => simpa using hs
  | cons p ps ih =>
      rw [List.flatMap_cons, ← List.append_assoc]
      apply ih
      have hlast : s ++ writeParameter p
          = (s ++ ';' :: (p.1.toList ++ ['='])) ++ writeValue p.2.toList := by
        simp [writeParameter]
      rw [hlast, Text.stops_reverse_append (writeValue_ne_nil _)]
      exact stops_reverse_writeValue _

theorem Canonical.trim_write {m : MediaType} (h : m.Canonical) : Text.trim m.write = m.write := by
  let t : Token := ⟨m.type.toList, h.type.1⟩
  let u : Token := ⟨m.subtype.toList, h.subtype.1⟩
  have hfirst : Text.Stops Text.isBlank m.write := by
    rw [write, List.append_assoc]
    exact t.stops_isBlank_append _
  have hlast : Text.Stops Text.isBlank (m.type.toList ++ '/' :: m.subtype.toList).reverse := by
    rw [List.append_cons, Text.stops_reverse_append u.chars_ne_nil]
    exact u.stops_reverse
  exact Text.trim_of_stops hfirst (stops_reverse_append_parameters _ hlast)

/-! ## There and back -/

theorem Canonical.parse_of_trim {m : MediaType} (h : m.Canonical) {text : String}
    (htext : Text.trim text.toList = m.write) : parse text = .ok m := by
  obtain ⟨d, hd, hlegal, hm⟩ := h.exists_derivation
  exact Denotes.parse_eq (.inr ⟨d, hd.trans htext.symm, hlegal, hm⟩)

theorem Canonical.parse_text {m : MediaType} (h : m.Canonical) : parse m.text = .ok m := by
  apply h.parse_of_trim
  rw [text, String.toList_ofList, h.trim_write]

/-- The media types that are read back from their text are the canonical ones, and reading gives no
others: what was read once is read again from its text. -/
theorem parse_text_eq_ok_iff_canonical (m : MediaType) :
    (parse m.text = .ok m ↔ m.Canonical) ∧
    ∀ s, parse s = .ok m → m.Canonical ∧ parse m.text = .ok m := by
  have hread : ∀ s, parse s = .ok m → m.Canonical :=
    fun s hs => (denotes_of_parse hs).canonical
  refine ⟨⟨hread m.text, Canonical.parse_text⟩, ?_⟩
  intro s hs
  exact ⟨hread s hs, (hread s hs).parse_text⟩

end HttpContract.MediaType
