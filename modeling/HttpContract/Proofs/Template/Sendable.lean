import HttpContract.Proofs.MediaType.Control
import HttpContract.Proofs.Template.Declared

/-!
# Header values that cannot be sent

No header value may hold a carriage return, a line feed or a null character. Declarations keep them out of
the values of `Content-Type` and `Accept` everywhere but between the quotes of a parameter value. There each
of them passes compilation and is in every request of the template.
-/

namespace HttpContract

namespace Template

variable {method type : Option Exchange} {t : Template} {c : Char}

/-- The characters that no header value may hold. -/
inductive Unsendable : Char → Prop
  | carriageReturn : Unsendable '\r'
  | lineFeed : Unsendable '\n'
  | null : Unsendable '\x00'

theorem Unsendable.isControl (h : Unsendable c) : MediaType.IsControl c := by
  unfold MediaType.IsControl
  cases h <;> decide

/-- A text that is effective in the part quotes the character in a parameter value. -/
def Part.Quotes (method type : Option Exchange) (c : Char) (part : Part) : Prop :=
  ∃ texts ∈ part.effective? method type, ∃ text ∈ texts, MediaType.Quotes (Text.trim text.toList) c

/-! ## What the values hold -/

theorem mem_contentType_iff (h : compile method type = .ok t) (hc : MediaType.IsControl c) :
    (∃ value ∈ t.contentType.map MediaType.text, c ∈ value.toList) ↔
      Part.contentType.Quotes method type c := by
  obtain ⟨-, -, hread, -⟩ := compile_eq_ok_iff.mp h
  rw [contentType?_eq, optionMapM_eq_ok_iff] at hread
  rw [Part.Quotes, Part.effective?_contentType]
  generalize effective? Exchange.contentType method type = found at hread ⊢
  generalize t.contentType = kept at hread ⊢
  cases hread with
  | none => simp
  | some hparse => simpa using MediaType.mem_text_iff_quotes (exists_of_mapError_eq_ok hparse) hc

theorem mem_intercalate_iff {separator : List Char} (hseparator : c ∉ separator)
    {pieces : List (List Char)} : c ∈ separator.intercalate pieces ↔ ∃ piece ∈ pieces, c ∈ piece := by
  induction pieces with
  | nil => simp
  | cons piece pieces ih =>
      cases pieces with
      | nil => simp
      | cons next pieces =>
          rw [List.intercalate_cons_cons, List.mem_append, List.mem_append, ih, List.exists_mem_cons_iff]
          simp [hseparator]

theorem mem_acceptText_iff (hc : MediaType.IsControl c) {ms : List MediaType} :
    c ∈ (acceptText ms).toList ↔ ∃ m ∈ ms, c ∈ m.text.toList := by
  have hseparator : c ∉ ", ".toList := by
    have hcomma : c ≠ ',' := hc.ne_of_le (by decide)
    have hblank : c ≠ ' ' := hc.ne_of_le (by decide)
    simp [hcomma, hblank]
  rw [acceptText, String.toList_intercalate, mem_intercalate_iff hseparator]
  simp

theorem mem_accept_iff (h : compile method type = .ok t) (hc : MediaType.IsControl c) :
    (∃ value ∈ t.accept.map acceptText, c ∈ value.toList) ↔ Part.accept.Quotes method type c := by
  obtain ⟨-, -, -, hread⟩ := compile_eq_ok_iff.mp h
  rw [accept?_eq, optionMapM_eq_ok_iff] at hread
  rw [Part.Quotes, Part.effective?]
  change _ ↔ ∃ texts ∈ (acceptOf? method).or (acceptOf? type), _
  generalize (acceptOf? method).or (acceptOf? type) = found at hread ⊢
  generalize t.accept = kept at hread ⊢
  cases hread with
  | none => simp
  | @some texts ms hparse =>
      have hread := mapM_eq_ok_iff.mp (exists_of_mapError_eq_ok hparse)
      have hentries := exists_mem_iff_of_forall₂ hread fun text m hm =>
        (MediaType.mem_text_iff_quotes hm hc).symm
      simpa [mem_acceptText_iff hc] using hentries.symm

/-! ## A quoted line feed -/

/-- A media type whose parameter cannot be sent. -/
def brokenNote : MediaType := { type := "text", subtype := "plain", parameters := [("note", "a\nb")] }

theorem canonical_brokenNote : brokenNote.Canonical where
  type := ⟨by decide, by simp [brokenNote]⟩
  subtype := ⟨by decide, by simp [brokenNote]⟩
  names := by
    simp only [brokenNote, List.forall_mem_singleton]
    exact ⟨by decide, by simp⟩
  wildcard := by decide

theorem text_brokenNote : brokenNote.text = "text/plain;note=\x22a\nb\x22" := by decide

theorem parse_brokenNote_spaced :
    MediaType.parse " text/plain\n;note =\r\n\x22a\nb\x22" = .ok brokenNote := by
  let lineFeed : MediaType.Blanks := ⟨['\n'], List.all_eq_true.mp (by decide)⟩
  let note : MediaType.WrittenParameter :=
    { beforeName := .none
      name := ⟨"note".toList, by decide⟩
      afterName := ⟨[' '], List.all_eq_true.mp (by decide)⟩
      beforeValue := ⟨['\r', '\n'], List.all_eq_true.mp (by decide)⟩
      value := .quoted [.ofChar 'a', .ofChar '\n', .ofChar 'b']
      afterValue := .none }
  let written : MediaType.Derivation :=
    ⟨⟨"text".toList, by decide⟩, ⟨"plain".toList, by decide⟩, lineFeed, [note]⟩
  have hlegal : written.Legal := by simp [written, MediaType.Derivation.Legal]
  exact MediaType.Denotes.parse_eq (.inr ⟨written, by decide, hlegal, by decide⟩)

theorem compile_brokenNote {text : String} (h : MediaType.parse text = .ok brokenNote) :
    compile (some { contentType := text }) none = .ok { contentType := some brokenNote } := by
  have hdeclared : effective? Exchange.contentType (some { contentType := text }) none = some text := by
    cases hblank : Text.isBlankText text with
    | false => simp [effective?, declared?, hblank]
    | true =>
        rw [MediaType.parse_of_trim_nil (Text.trim_eq_nil_iff.mpr (List.all_eq_true.mp hblank))] at h
        cases h
  rw [compile_eq_ok_iff]
  refine ⟨rfl, rfl, ?_, rfl⟩
  simp only [contentType?, hdeclared, h]

theorem get?_contentType_brokenNote :
    (fresh { contentType := some brokenNote }).headers.get? "Content-Type" =
      .ok (some "text/plain;note=\x22a\nb\x22") := by
  rw [get?_contentType_fresh, Option.map_some, text_brokenNote]

/-! ## What a request sends -/

/-- The declared header values of a request hold a character exactly if it was quoted where they were
declared. -/
structure SendsQuoted (method type : Option Exchange) (c : Char) (r : Request) : Prop where
  contentType : ∃ value, r.headers.get? "Content-Type" = .ok value ∧
    ((∃ text ∈ value, c ∈ text.toList) ↔ Part.contentType.Quotes method type c)
  accept : ∃ value, r.headers.get? "Accept" = .ok value ∧
    ((∃ text ∈ value, c ∈ text.toList) ↔ Part.accept.Quotes method type c)

/-- What cannot be sent is in the requests of a template exactly where its declarations quote it. -/
theorem sendsQuoted_of_compile (h : compile method type = .ok t) :
    ∃ r, t.newRequest = (.ok (), r) ∧ ∀ c, Unsendable c → SendsQuoted method type c r := by
  refine ⟨t.fresh, t.newRequest_eq, fun c hc => ?_⟩
  constructor
  case contentType => exact ⟨_, t.get?_contentType_fresh, mem_contentType_iff h hc.isControl⟩
  case accept => exact ⟨_, t.get?_accept_fresh, mem_accept_iff h hc.isControl⟩

/-- Of three line breaks in a declaration the one between quotes is sent. -/
theorem sendsQuoted_of_line_breaks :
    let method : Exchange := { contentType := " text/plain\n;note =\r\n\x22a\nb\x22" }
    ∃ t r, compile (some method) none = .ok t ∧ t.newRequest = (.ok (), r) ∧
      r.headers.get? "Content-Type" = .ok (some "text/plain;note=\x22a\nb\x22") ∧
      SendsQuoted (some method) none '\n' r ∧ SendsQuoted (some method) none '\r' r := by
  intro method
  have hcompile := compile_brokenNote parse_brokenNote_spaced
  obtain ⟨r, hr, hsends⟩ := sendsQuoted_of_compile hcompile
  obtain rfl := (Prod.mk.inj ((newRequest_eq _).symm.trans hr)).2
  exact ⟨_, _, hcompile, hr, get?_contentType_brokenNote, hsends _ .lineFeed, hsends _ .carriageReturn⟩

/-- A line feed between quotes does not keep a declaration from being compiled, and it is sent. -/
theorem sends_line_feed :
    ∃ t r value, compile (some { contentType := "text/plain;note=\x22a\nb\x22" }) none = .ok t ∧
      t.newRequest = (.ok (), r) ∧ r.headers.get? "Content-Type" = .ok (some value) ∧
      Unsendable '\n' ∧ '\n' ∈ value.toList := by
  have hparse : MediaType.parse "text/plain;note=\x22a\nb\x22" = .ok brokenNote := by
    rw [← text_brokenNote]
    exact canonical_brokenNote.parse_text
  exact ⟨_, _, _, compile_brokenNote hparse, newRequest_eq _, get?_contentType_brokenNote, .lineFeed,
    by decide⟩

end Template

end HttpContract
