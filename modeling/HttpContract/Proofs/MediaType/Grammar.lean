import HttpContract.MediaType.Reader
import HttpContract.Proofs.Text.Run

/-!
# The grammar of media types

    type "/" subtype BLANK* (";" BLANK* name BLANK* "=" BLANK* (token | quoted) BLANK*)*

A `Derivation` is a media type as it is written, with its blanks and quotes; each of its parts is
well-formed by its type. `Derivation.text` is the text it derives, `Derivation.mediaType` what the text
says. No text has two derivations (`Derivation.text_injective`).
-/

namespace HttpContract.MediaType

/-! ## Words -/

@[ext]
structure Token where
  chars : List Char
  isToken_chars : isToken chars = true

@[ext]
structure Blanks where
  chars : List Char
  isBlank_chars : ∀ c ∈ chars, Text.isBlank c = true

/-- A character between quotes, as itself or after a backslash. -/
inductive QuotedChar where
  | plain (c : Char) (ne_mark : c ≠ Text.doubleMark) (ne_backslash : c ≠ Text.backslash)
  | escaped (c : Char) (ne_newline : c ≠ '\n')

namespace QuotedChar

def text : QuotedChar → List Char
  | plain c _ _ => [c]
  | escaped c _ => [Text.backslash, c]

def char : QuotedChar → Char
  | plain c _ _ => c
  | escaped c _ => c

end QuotedChar

/-! ## Values and parameters -/

inductive WrittenValue where
  | token (t : Token)
  | quoted (cs : List QuotedChar)

namespace WrittenValue

def text : WrittenValue → List Char
  | token t => t.chars
  | quoted cs => Text.doubleMark :: (cs.flatMap QuotedChar.text ++ [Text.doubleMark])

/-- The value without its quotes. -/
def content : WrittenValue → List Char
  | token t => t.chars
  | quoted cs => cs.map QuotedChar.char

end WrittenValue

@[ext]
structure WrittenParameter where
  beforeName : Blanks
  name : Token
  afterName : Blanks
  beforeValue : Blanks
  value : WrittenValue
  afterValue : Blanks

namespace WrittenParameter

def text (p : WrittenParameter) : List Char :=
  ';' :: (p.beforeName.chars ++ (p.name.chars ++ (p.afterName.chars
    ++ '=' :: (p.beforeValue.chars ++ (p.value.text ++ p.afterValue.chars)))))

def parameter (p : WrittenParameter) : String × String :=
  (lowerText p.name.chars, String.ofList p.value.content)

end WrittenParameter

/-! ## Media types -/

@[ext]
structure Derivation where
  type : Token
  subtype : Token
  afterSubtype : Blanks
  parameters : List WrittenParameter

namespace Derivation

def text (d : Derivation) : List Char :=
  d.type.chars ++ '/' :: (d.subtype.chars ++ (d.afterSubtype.chars
    ++ d.parameters.flatMap WrittenParameter.text))

def mediaType (d : Derivation) : MediaType :=
  { type := lowerText d.type.chars
    subtype := lowerText d.subtype.chars
    parameters := d.parameters.map WrittenParameter.parameter }

/-- Every type stands only for every subtype. -/
def Legal (d : Derivation) : Prop := d.type.chars = ['*'] → d.subtype.chars = ['*']

end Derivation

/-- What a text without outer blanks says: everything, by a star alone, or what its derivation says. -/
def Denotes (s : List Char) (m : MediaType) : Prop :=
  s = ['*'] ∧ m = all ∨ ∃ d : Derivation, d.text = s ∧ d.Legal ∧ d.mediaType = m

/-! ## Where words end -/

theorem toNat_of_isTokenChar {c : Char} (h : isTokenChar c = true) :
    0x21 ≤ c.toNat ∧ c.toNat ≤ 0x7E := by
  simp only [isTokenChar, Bool.or_eq_true, decide_eq_true_eq] at h
  rcases h with h | h
  · delta Char.isAlphanum Char.isAlpha Char.isUpper Char.isLower Char.isDigit at h
    simp only [Bool.or_eq_true, Bool.and_eq_true, decide_eq_true_eq, UInt32.le_iff_toNat_le,
      ge_iff_le, Char.toNat_val, Char.reduceToNat] at h
    omega
  · revert c
    simp [Text.singleMark]

theorem isBlank_eq_false_of_isTokenChar {c : Char} (h : isTokenChar c = true) :
    Text.isBlank c = false := by
  have hc := toNat_of_isTokenChar h
  simp [Text.isBlank]
  omega

theorem isTokenChar_eq_false_of_isBlank {c : Char} (h : Text.isBlank c = true) :
    isTokenChar c = false := by
  cases hc : isTokenChar c with
  | false => rfl
  | true => rw [isBlank_eq_false_of_isTokenChar hc] at h; cases h

/-- All token characters are in ASCII, so that they can be gone through one by one. -/
theorem forall_isTokenChar {P : Char → Prop}
    (h : ∀ n < 0x7F, isTokenChar (Char.ofNat n) = true → P (Char.ofNat n)) {c : Char}
    (hc : isTokenChar c = true) : P c := by
  have hn := toNat_of_isTokenChar hc
  have hP := h c.toNat (by omega)
  rw [Char.ofNat_toNat] at hP
  exact hP hc

theorem toLower_eq_star_iff {c : Char} (hc : isTokenChar c = true) : c.toLower = '*' ↔ c = '*' :=
  forall_isTokenChar (P := fun c => c.toLower = '*' ↔ c = '*') (by decide) hc

/-- Neither a token nor a run of blanks goes on into the text. -/
def Ends (s : List Char) : Prop := Text.Stops isTokenChar s ∧ Text.Stops Text.isBlank s

theorem ends_nil : Ends [] := ⟨Text.stops_nil, Text.stops_nil⟩

theorem ends_cons {c : Char} (hc : isTokenChar c = false) (hb : Text.isBlank c = false)
    (s : List Char) : Ends (c :: s) :=
  ⟨Text.stops_cons.mpr hc, Text.stops_cons.mpr hb⟩

theorem stops_slash (s : List Char) : Text.Stops isTokenChar ('/' :: s) :=
  Text.stops_cons.mpr (by decide)

theorem ends_equals (s : List Char) : Ends ('=' :: s) := ends_cons (by decide) (by decide) s

namespace Token

theorem isTokenChar_of_mem {t : Token} {c : Char} (h : c ∈ t.chars) : isTokenChar c = true := by
  have ht := t.isToken_chars
  simp only [isToken, Bool.and_eq_true, List.all_eq_true] at ht
  exact ht.2 c h

theorem chars_ne_nil (t : Token) : t.chars ≠ [] := by
  have ht := t.isToken_chars
  simp only [isToken, Bool.and_eq_true, Bool.not_eq_true', List.isEmpty_eq_false_iff] at ht
  exact ht.1

theorem stops_append (t : Token) (s : List Char) {p : Char → Bool}
    (hp : ∀ c, isTokenChar c = true → p c = false) : Text.Stops p (t.chars ++ s) := by
  rw [Text.stops_append_of_ne_nil t.chars_ne_nil]
  intro c hc
  exact hp c (isTokenChar_of_mem (List.mem_of_mem_head? hc))

theorem stops_isBlank_append (t : Token) (s : List Char) :
    Text.Stops Text.isBlank (t.chars ++ s) :=
  t.stops_append s fun _ => isBlank_eq_false_of_isTokenChar

/-- A token does not begin with the mark that opens a quoted text. -/
theorem append_ne_doubleMark (t : Token) (s s' : List Char) :
    t.chars ++ s ≠ Text.doubleMark :: s' := by
  intro h
  have hhead : Text.doubleMark ∈ t.chars.head? := by
    cases ht : t.chars with
    | nil => exact absurd ht t.chars_ne_nil
    | cons c cs => rw [ht] at h; simp [(List.cons.inj h).1]
  exact absurd (isTokenChar_of_mem (List.mem_of_mem_head? hhead)) (by decide)

theorem append_inj {t t' : Token} {r r' : List Char} (hr : Text.Stops isTokenChar r)
    (hr' : Text.Stops isTokenChar r') (h : t.chars ++ r = t'.chars ++ r') : t = t' ∧ r = r' := by
  obtain ⟨hchars, hrest⟩ := Text.append_inj_of_stops (fun _ => isTokenChar_of_mem)
    (fun _ => isTokenChar_of_mem) hr hr' h
  exact ⟨Token.ext hchars, hrest⟩

theorem lowerText_eq_star_iff (t : Token) : lowerText t.chars = "*" ↔ t.chars = ['*'] := by
  have hstar : "*" = String.ofList ['*'] := rfl
  rw [lowerText, hstar, String.ofList_inj]
  constructor
  · intro h
    obtain ⟨c, hc, hlower⟩ := List.map_eq_singleton_iff.mp h
    have hmem : c ∈ t.chars := by simp [hc]
    rw [hc, (toLower_eq_star_iff (isTokenChar_of_mem hmem)).mp hlower]
  · intro h
    rw [h]
    rfl

end Token

namespace Blanks

def none : Blanks := ⟨[], by simp⟩

theorem stops_append (b : Blanks) {s : List Char} (hs : Text.Stops isTokenChar s) :
    Text.Stops isTokenChar (b.chars ++ s) := by
  cases h : b.chars with
  | nil => exact hs
  | cons c cs =>
      have hc := b.isBlank_chars c (by simp [h])
      simpa using isTokenChar_eq_false_of_isBlank hc

theorem append_inj {b b' : Blanks} {r r' : List Char} (hr : Text.Stops Text.isBlank r)
    (hr' : Text.Stops Text.isBlank r') (h : b.chars ++ r = b'.chars ++ r') : b = b' ∧ r = r' := by
  obtain ⟨hchars, hrest⟩ := Text.append_inj_of_stops b.isBlank_chars b'.isBlank_chars hr hr' h
  exact ⟨Blanks.ext hchars, hrest⟩

end Blanks

/-! ## One derivation for a text -/

theorem QuotedChar.append_inj {cs cs' : List QuotedChar} {r r' : List Char}
    (h : cs.flatMap text ++ Text.doubleMark :: r = cs'.flatMap text ++ Text.doubleMark :: r') :
    cs = cs' ∧ r = r' := by
  have hmarks : Text.backslash ≠ Text.doubleMark := by decide
  induction cs generalizing cs' with
  | nil =>
      cases cs' with
      | nil => simpa using h
      | cons q' cs' =>
          cases q' with
          | plain c hm _ => exact absurd (by simpa [text] using (List.cons.inj h).1.symm) hm
          | escaped c _ => exact absurd (by simpa [text] using (List.cons.inj h).1.symm) hmarks
  | cons q cs ih =>
      cases cs' with
      | nil =>
          cases q with
          | plain c hm _ => exact absurd (by simpa [text] using (List.cons.inj h).1) hm
          | escaped c _ => exact absurd (by simpa [text] using (List.cons.inj h).1) hmarks
      | cons q' cs' =>
          cases q with
          | plain c hm hb =>
              cases q' with
              | plain c' _ _ =>
                  obtain ⟨rfl, hrest⟩ := List.cons.inj h
                  obtain ⟨rfl, hr⟩ := ih hrest
                  exact ⟨rfl, hr⟩
              | escaped c' _ => exact absurd (List.cons.inj h).1 hb
          | escaped c hn =>
              cases q' with
              | plain c' _ hb' => exact absurd (List.cons.inj h).1.symm hb'
              | escaped c' _ =>
                  obtain ⟨rfl, hrest⟩ := List.cons.inj (List.cons.inj h).2
                  obtain ⟨rfl, hr⟩ := ih hrest
                  exact ⟨rfl, hr⟩

theorem WrittenValue.append_inj {v v' : WrittenValue} {r r' : List Char}
    (hr : Text.Stops isTokenChar r) (hr' : Text.Stops isTokenChar r')
    (h : v.text ++ r = v'.text ++ r') : v = v' ∧ r = r' := by
  cases v with
  | token t =>
      cases v' with
      | token t' =>
          obtain ⟨rfl, hrest⟩ := Token.append_inj hr hr' h
          exact ⟨rfl, hrest⟩
      | quoted cs' => exact absurd h (t.append_ne_doubleMark r _)
  | quoted cs =>
      cases v' with
      | token t' => exact absurd h.symm (t'.append_ne_doubleMark r' _)
      | quoted cs' =>
          obtain ⟨rfl, hrest⟩ := QuotedChar.append_inj (by simpa [text] using h)
          exact ⟨rfl, hrest⟩

theorem WrittenValue.stops_append (v : WrittenValue) (s : List Char) :
    Text.Stops Text.isBlank (v.text ++ s) := by
  cases v with
  | token t => exact t.stops_isBlank_append s
  | quoted cs => exact Text.stops_cons.mpr (by decide)

namespace WrittenParameter

/-- The words and blanks of a parameter end where its next part begins. -/
theorem append_inj {p p' : WrittenParameter} {r r' : List Char} (hr : Ends r) (hr' : Ends r')
    (h : p.text ++ r = p'.text ++ r') : p = p' ∧ r = r' := by
  simp only [text, List.cons_append, List.append_assoc, List.cons.injEq, true_and] at h
  obtain ⟨hbefore, h⟩ := Blanks.append_inj (Token.stops_isBlank_append _ _)
    (Token.stops_isBlank_append _ _) h
  obtain ⟨hn, h⟩ := Token.append_inj (Blanks.stops_append _ (ends_equals _).1)
    (Blanks.stops_append _ (ends_equals _).1) h
  obtain ⟨hafter, h⟩ := Blanks.append_inj (ends_equals _).2 (ends_equals _).2 h
  obtain ⟨hopen, h⟩ := Blanks.append_inj (WrittenValue.stops_append _ _)
    (WrittenValue.stops_append _ _) (List.cons.inj h).2
  obtain ⟨hvalue, h⟩ := WrittenValue.append_inj (Blanks.stops_append _ hr.1)
    (Blanks.stops_append _ hr'.1) h
  obtain ⟨hclose, h⟩ := Blanks.append_inj hr.2 hr'.2 h
  exact ⟨WrittenParameter.ext hbefore hn hafter hopen hvalue hclose, h⟩

theorem ends_flatMap (ps : List WrittenParameter) : Ends (ps.flatMap text) := by
  cases ps with
  | nil => exact ends_nil
  | cons p ps => exact ends_cons (by decide) (by decide) _

theorem flatMap_text_inj {ps ps' : List WrittenParameter} (h : ps.flatMap text = ps'.flatMap text) :
    ps = ps' := by
  induction ps generalizing ps' with
  | nil =>
      cases ps' with
      | nil => rfl
      | cons p' ps' => simp [text] at h
  | cons p ps ih =>
      cases ps' with
      | nil => simp [text] at h
      | cons p' ps' =>
          simp only [List.flatMap_cons] at h
          obtain ⟨rfl, hrest⟩ := append_inj (ends_flatMap ps) (ends_flatMap ps') h
          rw [ih hrest]

end WrittenParameter

namespace Derivation

theorem slash_mem_text (d : Derivation) : '/' ∈ d.text := by simp [text]

theorem text_ne_nil (d : Derivation) : d.text ≠ [] := List.ne_nil_of_mem d.slash_mem_text

theorem text_ne_star (d : Derivation) : d.text ≠ ['*'] := by
  intro h
  have hslash := d.slash_mem_text
  rw [h] at hslash
  exact absurd hslash (by decide)

theorem legal_iff (d : Derivation) :
    d.Legal ↔ (d.mediaType.type = "*" → d.mediaType.subtype = "*") := by
  have htype : d.mediaType.type = "*" ↔ d.type.chars = ['*'] := d.type.lowerText_eq_star_iff
  have hsubtype : d.mediaType.subtype = "*" ↔ d.subtype.chars = ['*'] :=
    d.subtype.lowerText_eq_star_iff
  rw [Legal, htype, hsubtype]

theorem text_injective : Function.Injective Derivation.text := by
  intro d d' h
  obtain ⟨htype, h⟩ := Token.append_inj (stops_slash _) (stops_slash _) h
  obtain ⟨hsubtype, h⟩ := Token.append_inj
    (Blanks.stops_append _ (WrittenParameter.ends_flatMap _).1)
    (Blanks.stops_append _ (WrittenParameter.ends_flatMap _).1) (List.cons.inj h).2
  obtain ⟨hafter, h⟩ := Blanks.append_inj (WrittenParameter.ends_flatMap _).2
    (WrittenParameter.ends_flatMap _).2 h
  exact Derivation.ext htype hsubtype hafter (WrittenParameter.flatMap_text_inj h)

end Derivation

end HttpContract.MediaType
