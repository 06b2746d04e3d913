import HttpContract.Json
import HttpContract.Proofs.Text.Run

/-!
# The grammar of documents

A document is one value with blanks around it. `Reads s j r` says that the text `s` begins with a value, that it
stands for `j`, and that `r` is what follows; the other relations say the same of the parts of a value. Only of
numbers it is left open where they end: the rest of a document leaves no choice (`WrittenNumber.append_inj`).
-/

namespace HttpContract.Json

/-! ## Blanks -/

def isBlank (c : Char) : Bool := c = ' ' || c = '\t' || c = '\n' || c = '\r'

def Blank (s : List Char) : Prop := ∀ c ∈ s, isBlank c = true

/-! ## Numbers -/

/-- A run of digits that is not empty. -/
@[ext]
structure DigitRun where
  chars : List Char
  chars_ne_nil : chars ≠ []
  isDigit_chars : ∀ c ∈ chars, c.isDigit = true

inductive Sign where
  | none
  | plus
  | minus

def Sign.text : Sign → List Char
  | none => []
  | plus => ['+']
  | minus => ['-']

structure WrittenExponent where
  capital : Bool
  sign : Sign
  digits : DigitRun

namespace WrittenExponent

def text (e : WrittenExponent) : List Char :=
  (if e.capital then 'E' else 'e') :: (e.sign.text ++ e.digits.chars)

def value (e : WrittenExponent) : Int :=
  match e.sign with
  | .minus => -Binary64.natOf e.digits.chars
  | _ => Binary64.natOf e.digits.chars

end WrittenExponent

/-- A number as it is written: a whole part without a zero in front, and perhaps a fraction and an exponent. -/
structure WrittenNumber where
  negative : Bool
  whole : DigitRun
  fraction : Option DigitRun
  exponent : Option WrittenExponent
  plain_whole : whole.chars.head? = some '0' → whole.chars = ['0']

namespace WrittenNumber

def fractionText : Option DigitRun → List Char
  | none => []
  | some ds => '.' :: ds.chars

def exponentText : Option WrittenExponent → List Char
  | none => []
  | some e => e.text

def text (w : WrittenNumber) : List Char :=
  (if w.negative then ['-'] else []) ++ (w.whole.chars ++ (fractionText w.fraction ++ exponentText w.exponent))

/-- The digits after the point. -/
def decimals (w : WrittenNumber) : List Char := (w.fraction.map DigitRun.chars).getD []

/-- The power of ten that the last digit counts. -/
def scale (w : WrittenNumber) : Int := (w.exponent.map WrittenExponent.value).getD 0 - w.decimals.length

/-- All digits as one whole number. -/
def significand (w : WrittenNumber) : Nat := Binary64.natOf (w.whole.chars ++ w.decimals)

/-- A number without fraction and exponent is whole, any other is a binary number. -/
def value (w : WrittenNumber) : Json :=
  if w.fraction.isNone ∧ w.exponent.isNone then
    .int (if w.negative then -w.significand else w.significand)
  else .float (Binary64.ofDecimal w.negative w.significand w.scale)

end WrittenNumber

/-! ## Texts -/

/-- The characters that stand for others after a backslash. -/
def shortEscapes : List (Char × Char) :=
  [(Text.doubleMark, Text.doubleMark), (Text.backslash, Text.backslash), ('/', '/'), ('b', '\u0008'),
    ('f', '\u000c'), ('n', '\n'), ('r', '\r'), ('t', '\t')]

def hexValue? (c : Char) : Option Nat :=
  if c.isDigit then some (c.toNat - 0x30)
  else if 'a' ≤ c ∧ c ≤ 'f' then some (c.toNat - 0x57)
  else if 'A' ≤ c ∧ c ≤ 'F' then some (c.toNat - 0x37)
  else none

/-- The unit that four hexadecimal digits name. -/
def unit? : List Char → Option Nat
  | [a, b, c, d] => do
    let a ← hexValue? a
    let b ← hexValue? b
    let c ← hexValue? c
    let d ← hexValue? d
    return ((a * 16 + b) * 16 + c) * 16 + d
  | _ => none

inductive ReadsChar : List Char → Char → List Char → Prop where
  | plain {c r} (printable : 0x20 ≤ c.toNat) (ne_mark : c ≠ Text.doubleMark)
      (ne_backslash : c ≠ Text.backslash) : ReadsChar (c :: r) c r
  | short {mark c r} (h : (mark, c) ∈ shortEscapes) : ReadsChar (Text.backslash :: mark :: r) c r
  | unit {ds n r} (h : unit? ds = some n) (scalar : n < 0xD800 ∨ 0xDFFF < n) :
      ReadsChar (Text.backslash :: 'u' :: (ds ++ r)) (Char.ofNat n) r
  /-- A character beyond the units is written as two of them. -/
  | pair {ds es high low r} (h : unit? ds = some high) (h' : unit? es = some low)
      (isHigh : 0xD800 ≤ high ∧ high < 0xDC00) (isLow : 0xDC00 ≤ low ∧ low < 0xE000) :
      ReadsChar (Text.backslash :: 'u' :: (ds ++ Text.backslash :: 'u' :: (es ++ r)))
        (Char.ofNat (0x10000 + (high - 0xD800) * 0x400 + (low - 0xDC00))) r

/-- Characters up to the closing mark. -/
inductive ReadsChars : List Char → List Char → List Char → Prop where
  | nil {r} : ReadsChars (Text.doubleMark :: r) [] r
  | cons {s c t cs r} (first : ReadsChar s c t) (others : ReadsChars t cs r) : ReadsChars s (c :: cs) r

/-- A text between its marks. -/
def ReadsText (s : List Char) (x : String) (r : List Char) : Prop :=
  ∃ t, s = Text.doubleMark :: t ∧ ReadsChars t x.toList r

/-! ## Values -/

def words : List (List Char × Json) :=
  [("null".toList, .null), ("true".toList, .bool true), ("false".toList, .bool false)]

/-- Parts of one kind with commas between them, up to the closing mark. There is one at least. -/
inductive ReadsListed {α : Type} (part : List Char → α → List Char → Prop) (close : Char) :
    List Char → List α → List Char → Prop where
  | last {s x b r} (h : part s x (b ++ close :: r)) (hb : Blank b) : ReadsListed part close s [x] r
  | more {s x b t xs r} (h : part s x (b ++ ',' :: t)) (hb : Blank b) (others : ReadsListed part close t xs r) :
      ReadsListed part close s (x :: xs) r

mutual

inductive Reads : List Char → Json → List Char → Prop where
  | word {t j r} (h : (t, j) ∈ words) : Reads (t ++ r) j r
  | number (w : WrittenNumber) {r} : Reads (w.text ++ r) w.value r
  | text {s x r} (h : ReadsText s x r) : Reads s (.str x) r
  | emptyArray {b r} (hb : Blank b) : Reads ('[' :: (b ++ ']' :: r)) (.array []) r
  | array {s xs r} (h : ReadsListed ReadsItem ']' s xs r) : Reads ('[' :: s) (.array xs) r
  | emptyObject {b r} (hb : Blank b) : Reads ('\x7b' :: (b ++ '\x7d' :: r)) (.object []) r
  | object {s fs r} (h : ReadsListed ReadsField '\x7d' s fs r) : Reads ('\x7b' :: s) (.object fs) r

inductive ReadsItem : List Char → Json → List Char → Prop where
  | mk {b s x r} (hb : Blank b) (h : Reads s x r) : ReadsItem (b ++ s) x r

/-- A name and a value, with a colon between them. -/
inductive ReadsField : List Char → String × Json → List Char → Prop where
  | mk {b s name b' b'' t x r} (hb : Blank b) (hname : ReadsText s name (b' ++ ':' :: (b'' ++ t)))
      (hb' : Blank b') (hb'' : Blank b'') (h : Reads t x r) : ReadsField (b ++ s) (name, x) r

end

/-- The whole text is one value. -/
def Document (s : List Char) (j : Json) : Prop :=
  ∃ b t b', Blank b ∧ Blank b' ∧ s = b ++ t ∧ Reads t j b'

/-! ## Where a number ends -/

/-- Characters that a number may have. -/
def isNumberChar (c : Char) : Bool := c.isDigit || c = '-' || c = '+' || c = '.' || c = 'e' || c = 'E'

variable {p : Char → Bool} {r r' : List Char}

theorem stops_isDigit (h : Text.Stops isNumberChar r) : Text.Stops Char.isDigit r := fun c hc => by
  have hnumber := h c hc
  simp only [isNumberChar, Bool.or_eq_false_iff] at hnumber
  simp_all

theorem ne_cons_of_stops {c : Char} (h : Text.Stops isNumberChar r) (hc : isNumberChar c = true)
    (t : List Char) : r ≠ c :: t := by
  rintro rfl
  rw [Text.stops_cons, hc] at h
  cases h

namespace DigitRun

/-- A run of digits is cut off in one way, where no digit follows. -/
theorem append_inj {ds es : DigitRun} (hr : Text.Stops Char.isDigit r) (hr' : Text.Stops Char.isDigit r')
    (h : ds.chars ++ r = es.chars ++ r') : ds = es ∧ r = r' := by
  obtain ⟨hchars, hrest⟩ := Text.append_inj_of_stops ds.isDigit_chars es.isDigit_chars hr hr' h
  exact ⟨DigitRun.ext hchars, hrest⟩

theorem exists_cons (ds : DigitRun) : ∃ c t, ds.chars = c :: t ∧ c.isDigit = true := by
  cases h : ds.chars with
  | nil => exact absurd h ds.chars_ne_nil
  | cons c t => exact ⟨c, t, rfl, ds.isDigit_chars c (by simp [h])⟩

theorem append_ne_cons (ds : DigitRun) {c : Char} (hc : c.isDigit = false) (t : List Char) :
    ds.chars ++ r ≠ c :: t := by
  obtain ⟨d, ds', heq, hd⟩ := ds.exists_cons
  rw [heq]
  rintro h
  cases h
  simp_all

end DigitRun

theorem Sign.append_inj {x y : Sign} {ds es : DigitRun}
    (h : x.text ++ (ds.chars ++ r) = y.text ++ (es.chars ++ r')) :
    x = y ∧ ds.chars ++ r = es.chars ++ r' := by
  have hne : ∀ (ds : DigitRun) (r : List Char) (c : Char) (t : List Char), c = '+' ∨ c = '-' →
      ds.chars ++ r ≠ c :: t := by
    rintro ds r c t (rfl | rfl) <;> exact ds.append_ne_cons (by decide) t
  have := hne ds r
  have := hne es r'
  cases x <;> cases y <;> simp_all [Sign.text, eq_comm]

theorem WrittenExponent.append_inj {x y : WrittenExponent} (hr : Text.Stops Char.isDigit r)
    (hr' : Text.Stops Char.isDigit r') (h : x.text ++ r = y.text ++ r') : x = y ∧ r = r' := by
  obtain ⟨capital, sign, digits⟩ := x
  obtain ⟨capital', sign', digits'⟩ := y
  simp only [WrittenExponent.text, List.cons_append, List.append_assoc, List.cons.injEq] at h
  obtain ⟨hsign, hdigits⟩ := Sign.append_inj h.2
  obtain ⟨rfl, hrest⟩ := DigitRun.append_inj hr hr' hdigits
  have hcapital : capital = capital' := by
    have := h.1
    revert this
    cases capital <;> cases capital' <;> simp
  exact ⟨by rw [hsign, hcapital], hrest⟩

namespace WrittenNumber

theorem stops_exponentText (e : Option WrittenExponent) (hr : Text.Stops isNumberChar r) :
    Text.Stops (fun c => c.isDigit || c = '.') (exponentText e ++ r) := by
  cases e with
  | none =>
      intro c hc
      have hnumber := hr c hc
      simp only [isNumberChar, Bool.or_eq_false_iff] at hnumber
      simp_all
  | some e => cases hcap : e.capital <;> simp [exponentText, WrittenExponent.text, hcap]

theorem exponentText_append_inj {x y : Option WrittenExponent} (hr : Text.Stops isNumberChar r)
    (hr' : Text.Stops isNumberChar r') (h : exponentText x ++ r = exponentText y ++ r') : x = y ∧ r = r' := by
  have hmark : ∀ e : WrittenExponent, isNumberChar (if e.capital then 'E' else 'e') = true := fun e => by
    cases e.capital <;> decide
  cases x with
  | none =>
      cases y with
      | none => exact ⟨rfl, h⟩
      | some e => exact absurd h (ne_cons_of_stops hr (hmark e) _)
  | some e =>
      cases y with
      | none => exact absurd h.symm (ne_cons_of_stops hr' (hmark e) _)
      | some e' =>
          obtain ⟨rfl, hrest⟩ := WrittenExponent.append_inj (stops_isDigit hr) (stops_isDigit hr') h
          exact ⟨rfl, hrest⟩

theorem fractionText_append_inj {x y : Option DigitRun}
    (hr : Text.Stops (fun c => c.isDigit || c = '.') r) (hr' : Text.Stops (fun c => c.isDigit || c = '.') r')
    (h : fractionText x ++ r = fractionText y ++ r') : x = y ∧ r = r' := by
  have hdigit : ∀ s, Text.Stops (fun c => c.isDigit || c = '.') s → Text.Stops Char.isDigit s := by
    intro s hs c hc
    have := hs c hc
    simp_all
  cases x with
  | none =>
      cases y with
      | none => exact ⟨rfl, h⟩
      | some ds =>
          obtain rfl : r = '.' :: (ds.chars ++ r') := h
          simp at hr
  | some ds =>
      cases y with
      | none =>
          obtain rfl : '.' :: (ds.chars ++ r) = r' := h
          simp at hr'
      | some es =>
          obtain ⟨rfl, hrest⟩ := DigitRun.append_inj (hdigit r hr) (hdigit r' hr') (List.cons.inj h).2
          exact ⟨rfl, hrest⟩

theorem stops_fractionText (x : Option DigitRun) (hr : Text.Stops (fun c => c.isDigit || c = '.') r) :
    Text.Stops Char.isDigit (fractionText x ++ r) := by
  cases x with
  | none =>
      intro c hc
      have := hr c hc
      simp_all
  | some ds => simp [fractionText]

/-- Where no character of a number follows, a number is cut off in one way. -/
theorem append_inj {w w' : WrittenNumber} (hr : Text.Stops isNumberChar r) (hr' : Text.Stops isNumberChar r')
    (h : w.text ++ r = w'.text ++ r') : w = w' ∧ r = r' := by
  obtain ⟨negative, whole, fraction, exponent, plain⟩ := w
  obtain ⟨negative', whole', fraction', exponent', plain'⟩ := w'
  simp only [text, List.append_assoc] at h
  obtain ⟨rfl, hunsigned⟩ : negative = negative' ∧
      whole.chars ++ (fractionText fraction ++ (exponentText exponent ++ r)) =
        whole'.chars ++ (fractionText fraction' ++ (exponentText exponent' ++ r')) := by
    cases negative <;> cases negative'
    · exact ⟨rfl, h⟩
    · exact absurd h (whole.append_ne_cons (by decide) _)
    · exact absurd h.symm (whole'.append_ne_cons (by decide) _)
    · exact ⟨rfl, (List.cons.inj h).2⟩
  have hexponent := stops_exponentText exponent hr
  have hexponent' := stops_exponentText exponent' hr'
  obtain ⟨rfl, hfraction⟩ := DigitRun.append_inj (stops_fractionText fraction hexponent)
    (stops_fractionText fraction' hexponent') hunsigned
  obtain ⟨rfl, hrest⟩ := fractionText_append_inj hexponent hexponent' hfraction
  obtain ⟨rfl, hend⟩ := exponentText_append_inj hr hr' hrest
  exact ⟨rfl, hend⟩

theorem exists_cons (w : WrittenNumber) : ∃ c t, w.text = c :: t ∧ (c.isDigit = true ∨ c = '-') := by
  unfold text
  cases w.negative with
  | false =>
      obtain ⟨c, t, hchars, hc⟩ := w.whole.exists_cons
      exact ⟨c, _, by rw [hchars]; rfl, .inl hc⟩
  | true => exact ⟨'-', _, rfl, .inr rfl⟩

theorem append_ne_cons (w : WrittenNumber) {c : Char} (hdigit : c.isDigit = false) (hminus : c ≠ '-')
    (t : List Char) : w.text ++ r ≠ c :: t := by
  obtain ⟨d, s, heq, hd⟩ := w.exists_cons
  rw [heq]
  rintro h
  cases h
  simp_all

theorem append_ne_minus_cons (w : WrittenNumber) {c : Char} (hdigit : c.isDigit = false) (t : List Char) :
    w.text ++ r ≠ '-' :: c :: t := by
  intro h
  rw [text, List.append_assoc, List.append_assoc] at h
  cases hnegative : w.negative with
  | false =>
      rw [hnegative] at h
      exact w.whole.append_ne_cons (by decide) _ h
  | true =>
      rw [hnegative] at h
      exact w.whole.append_ne_cons hdigit t (List.cons.inj h).2

end WrittenNumber

/-! ## What a value begins with -/

/-- Blanks and the marks that close a list: no value begins with them. -/
def isOutside (c : Char) : Bool := isBlank c || c = ']' || c = '\x7d'

theorem stops_isBlank {s : List Char} (h : Text.Stops isOutside s) : Text.Stops isBlank s := fun c hc => by
  have houtside := h c hc
  simp only [isOutside, Bool.or_eq_false_iff] at houtside
  exact houtside.1.1

namespace Reads

variable {s : List Char} {j : Json}

theorem mem_words {t : List Char} (h : (t, j) ∈ words) :
    t = ['n', 'u', 'l', 'l'] ∧ j = .null ∨ t = ['t', 'r', 'u', 'e'] ∧ j = .bool true ∨
      t = ['f', 'a', 'l', 's', 'e'] ∧ j = .bool false := by
  simpa [words] using h

theorem exists_cons (h : Reads s j r) : ∃ c t, s = c :: t ∧
    (c.isDigit = true ∨ c ∈ ['-', 'n', 't', 'f', Text.doubleMark, '[', '\x7b']) := by
  cases h with
  | word h =>
      obtain ⟨rfl, -⟩ | ⟨rfl, -⟩ | ⟨rfl, -⟩ := mem_words h
      all_goals exact ⟨_, _, rfl, .inr (by simp)⟩
  | number w =>
      obtain ⟨c, t, heq, hc⟩ := w.exists_cons
      exact ⟨c, t ++ r, by rw [heq]; rfl, hc.imp_right (by simp +contextual)⟩
  | text h =>
      obtain ⟨t, rfl, -⟩ := h
      exact ⟨_, t, rfl, .inr (by simp)⟩
  | _ => exact ⟨_, _, rfl, .inr (by simp)⟩

theorem stops_isOutside (h : Reads s j r) : Text.Stops isOutside s := by
  obtain ⟨c, t, rfl, hc⟩ := h.exists_cons
  rw [Text.stops_cons]
  rcases hc with hdigit | hc
  · have hne : ∀ d : Char, d.isDigit = false → c ≠ d := by
      rintro d hd rfl
      simp_all
    simp [isOutside, isBlank, hne]
  · simp only [List.mem_cons, List.not_mem_nil, or_false] at hc
    obtain rfl | rfl | rfl | rfl | rfl | rfl | rfl := hc <;> rfl

theorem of_word {t : List Char} {x : Json} (ht : (t, x) ∈ words) (h : Reads (t ++ s) j r) : s = r ∧ j = x := by
  generalize hu : t ++ s = u at h
  cases h with
  | word h =>
      obtain ⟨rfl, rfl⟩ | ⟨rfl, rfl⟩ | ⟨rfl, rfl⟩ := mem_words ht <;>
        obtain ⟨rfl, rfl⟩ | ⟨rfl, rfl⟩ | ⟨rfl, rfl⟩ := mem_words h <;> simp_all
  | number w =>
      obtain ⟨rfl, rfl⟩ | ⟨rfl, rfl⟩ | ⟨rfl, rfl⟩ := mem_words ht <;>
        exact absurd hu.symm (w.append_ne_cons (by decide) (by decide) _)
  | text h =>
      obtain ⟨v, rfl, -⟩ := h
      obtain ⟨rfl, rfl⟩ | ⟨rfl, rfl⟩ | ⟨rfl, rfl⟩ := mem_words ht <;> cases hu
  | _ => obtain ⟨rfl, rfl⟩ | ⟨rfl, rfl⟩ | ⟨rfl, rfl⟩ := mem_words ht <;> cases hu

/-- The first character tells of which kind a value is. -/
theorem of_cons {c : Char} (h : Reads (c :: s) j r) :
    ((c.isDigit = true ∨ c = '-') ∧ ∃ w : WrittenNumber, c :: s = w.text ++ r ∧ j = w.value) ∨
      (c = Text.doubleMark ∧ ∃ x : String, ReadsChars s x.toList r ∧ j = .str x) ∨
      (c = '[' ∧ ((∃ b, Blank b ∧ s = b ++ ']' :: r ∧ j = .array []) ∨
        ∃ xs, ReadsListed ReadsItem ']' s xs r ∧ j = .array xs)) ∨
      (c = '\x7b' ∧ ((∃ b, Blank b ∧ s = b ++ '\x7d' :: r ∧ j = .object []) ∨
        ∃ fs, ReadsListed ReadsField '\x7d' s fs r ∧ j = .object fs)) ∨
      c ∈ ['n', 't', 'f'] := by
  generalize ht : c :: s = t at h
  -- each rule fixes the first character
  cases h with
  | word h =>
      obtain ⟨rfl, -⟩ | ⟨rfl, -⟩ | ⟨rfl, -⟩ := mem_words h
      all_goals
        cases ht
        exact .inr (.inr (.inr (.inr (by simp))))
  | number w =>
      obtain ⟨d, u, heq, hd⟩ := w.exists_cons
      rw [heq] at ht
      cases ht
      exact .inl ⟨hd, w, by rw [heq, List.cons_append], rfl⟩
  | text h =>
      obtain ⟨u, rfl, hchars⟩ := h
      cases ht
      exact .inr (.inl ⟨rfl, _, hchars, rfl⟩)
  | emptyArray hb =>
      cases ht
      exact .inr (.inr (.inl ⟨rfl, .inl ⟨_, hb, rfl, rfl⟩⟩))
  | array h =>
      cases ht
      exact .inr (.inr (.inl ⟨rfl, .inr ⟨_, h, rfl⟩⟩))
  | emptyObject hb =>
      cases ht
      exact .inr (.inr (.inr (.inl ⟨rfl, .inl ⟨_, hb, rfl, rfl⟩⟩)))
  | object h =>
      cases ht
      exact .inr (.inr (.inr (.inl ⟨rfl, .inr ⟨_, h, rfl⟩⟩)))

theorem of_mark (h : Reads (Text.doubleMark :: s) j r) :
    ∃ x : String, ReadsChars s x.toList r ∧ j = .str x := by
  obtain ⟨hc, -⟩ | ⟨-, h⟩ | ⟨hc, -⟩ | ⟨hc, -⟩ | hc := h.of_cons
  · exact absurd hc (by decide)
  · exact h
  all_goals exact absurd hc (by decide)

theorem of_bracket (h : Reads ('[' :: s) j r) :
    (∃ b, Blank b ∧ s = b ++ ']' :: r ∧ j = .array []) ∨
      ∃ xs, ReadsListed ReadsItem ']' s xs r ∧ j = .array xs := by
  obtain ⟨hc, -⟩ | ⟨hc, -⟩ | ⟨-, h⟩ | ⟨hc, -⟩ | hc := h.of_cons
  · exact absurd hc (by decide)
  · exact absurd hc (by decide)
  · exact h
  all_goals exact absurd hc (by decide)

theorem of_brace (h : Reads ('\x7b' :: s) j r) :
    (∃ b, Blank b ∧ s = b ++ '\x7d' :: r ∧ j = .object []) ∨
      ∃ fs, ReadsListed ReadsField '\x7d' s fs r ∧ j = .object fs := by
  obtain ⟨hc, -⟩ | ⟨hc, -⟩ | ⟨hc, -⟩ | ⟨-, h⟩ | hc := h.of_cons
  · exact absurd hc (by decide)
  · exact absurd hc (by decide)
  · exact absurd hc (by decide)
  · exact h
  · exact absurd hc (by decide)

theorem of_number {c : Char} (hc : c.isDigit = true ∨ c = '-') (h : Reads (c :: s) j r) :
    ∃ w : WrittenNumber, c :: s = w.text ++ r ∧ j = w.value := by
  obtain ⟨-, h⟩ | ⟨rfl, -⟩ | ⟨rfl, -⟩ | ⟨rfl, -⟩ | hmem := h.of_cons
  · exact h
  · exact absurd hc (by decide)
  · exact absurd hc (by decide)
  · exact absurd hc (by decide)
  · simp only [List.mem_cons, List.not_mem_nil, or_false] at hmem
    obtain rfl | rfl | rfl := hmem
    all_goals exact absurd hc (by decide)

end Reads

/-! ## Parts of lists -/

theorem blank_nil : Blank [] := by simp [Blank]

theorem blank_append_inj {b b' s s' : List Char} (hb : Blank b) (hb' : Blank b') (hs : Text.Stops isBlank s)
    (hs' : Text.Stops isBlank s') (h : b ++ s = b' ++ s') : b = b' ∧ s = s' :=
  Text.append_inj_of_stops hb hb' hs hs' h

theorem cons_inj_of_blank {b b' s s' : List Char} {c d : Char} (hb : Blank b) (hb' : Blank b')
    (hc : isBlank c = false) (hd : isBlank d = false) (h : b ++ c :: s = b' ++ d :: s') : c = d ∧ s = s' :=
  List.cons.inj (blank_append_inj hb hb' (Text.stops_cons.mpr hc) (Text.stops_cons.mpr hd) h).2

theorem ReadsListed.first {α : Type} {part : List Char → α → List Char → Prop} {close : Char} {s : List Char}
    {xs : List α} (h : ReadsListed part close s xs r) : ∃ x t, part s x t := by
  cases h with
  | last h _ => exact ⟨_, _, h⟩
  | more h _ _ => exact ⟨_, _, h⟩

theorem ReadsItem.of_blank {b s : List Char} {j : Json} (hb : Blank b) (hs : Text.Stops isBlank s)
    (h : ReadsItem (b ++ s) j r) : Reads s j r := by
  generalize ht : b ++ s = t at h
  cases h with
  | mk hb' h =>
      obtain ⟨-, rfl⟩ := blank_append_inj hb hb' hs (stops_isBlank h.stops_isOutside) ht
      exact h

theorem ReadsField.of_blank {b s : List Char} {f : String × Json} (hb : Blank b) (hs : Text.Stops isBlank s)
    (h : ReadsField (b ++ s) f r) : ∃ b' b'' t, Blank b' ∧ Blank b'' ∧
      ReadsText s f.1 (b' ++ ':' :: (b'' ++ t)) ∧ Reads t f.2 r := by
  generalize ht : b ++ s = t at h
  cases h with
  | mk hb' hname hblank hblank' h =>
      obtain ⟨u, rfl, hchars⟩ := hname
      obtain ⟨-, rfl⟩ := blank_append_inj hb hb' hs (Text.stops_cons.mpr rfl) ht
      exact ⟨_, _, _, hblank, hblank', ⟨u, rfl, hchars⟩, h⟩

end HttpContract.Json
