import HttpContract.Proofs.Headers.Reading
import HttpContract.Proofs.MediaType.Listing
import HttpContract.Proofs.Template.Fresh
import HttpContract.Proofs.Template.Override

/-!
# What a request declares

A fresh request carries what its template declares and nothing else, and the template is read back from it.
Compiled templates hold canonical media types only, which is what reading them back rests on.
-/

namespace HttpContract

namespace Template

variable {method type : Option Exchange} {t : Template}

/-! ## Compiled templates -/

theorem exists_of_compile (h : compile method type = .ok t) :
    contentType? method type = .ok t.contentType ∧ accept? method type = .ok t.accept := by
  obtain ⟨-, -, hread⟩ := compile_eq_ok_iff.mp h
  exact hread

theorem canonical_contentType {m : MediaType} (h : contentType? method type = .ok (some m)) :
    m.Canonical := by
  unfold contentType? at h
  split at h
  · cases h
  · split at h
    · rename_i hparse
      cases h
      exact (MediaType.denotes_of_parse hparse).canonical
    · cases h

theorem acceptOf?_ne_nil {e : Option Exchange} {texts : List String} (h : acceptOf? e = some texts) :
    texts ≠ [] := by
  unfold acceptOf? at h
  split at h
  · cases h
  · split at h
    · cases h
    · rename_i hne
      cases h
      simpa using hne

theorem canonical_accept {ms : List MediaType} (h : accept? method type = .ok (some ms)) :
    ms ≠ [] ∧ ∀ m ∈ ms, m.Canonical := by
  unfold accept? at h
  split at h
  · cases h
  · rename_i texts htexts
    split at h
    · rename_i hparse
      cases h
      have hread := mapM_eq_ok_iff.mp hparse
      constructor
      · rintro rfl
        have hnil : texts = [] := List.forall₂_nil_right_iff.mp hread
        rcases Option.or_eq_some_iff.mp htexts with h | ⟨-, h⟩
        · exact acceptOf?_ne_nil h hnil
        · exact acceptOf?_ne_nil h hnil
      · intro m hm
        obtain ⟨text, -, hparse⟩ := exists_left_of_mem hread hm
        exact (MediaType.denotes_of_parse hparse).canonical
    · cases h

/-! ## Reading the fields of a template -/

theorem lowerBytes_contentType : lowerBytes "Content-Type".toUTF8 = "content-type".toUTF8 := by
  decide +kernel

theorem lowerBytes_accept : lowerBytes "Accept".toUTF8 = "accept".toUTF8 := by decide +kernel

theorem sought_contentType : Headers.sought "Content-Type" = "content-type" := by decide

theorem sought_accept : Headers.sought "Accept" = "accept" := by decide

/-- The header fields that a template declares, as they are read. -/
def declaredHeaders (t : Template) : List (String × String) :=
  (t.contentType.map fun m => ("content-type", m.text)).toList
    ++ (t.accept.map fun ms => ("accept", acceptText ms)).toList

theorem coherent_fresh (t : Template) : t.fresh.headers.Coherent := Headers.coherent_of_unread rfl

theorem written_fresh (t : Template) :
    List.Forall₂ Headers.Written t.fresh.headers.fields t.declaredHeaders := by
  have hcontentType : ∀ m : MediaType, Headers.Written
      (HeaderField.make "Content-Type".toUTF8 m.text.toUTF8) ("content-type", m.text) :=
    fun m => ⟨lowerBytes_contentType, rfl⟩
  have haccept : ∀ ms : List MediaType, Headers.Written
      (HeaderField.make "Accept".toUTF8 (acceptText ms).toUTF8) ("accept", acceptText ms) :=
    fun ms => ⟨lowerBytes_accept, rfl⟩
  obtain ⟨verb, url, contentType, accept⟩ := t
  cases contentType with
  | none =>
      cases accept with
      | none => exact .nil
      | some ms => exact .cons (haccept ms) .nil
  | some m =>
      cases accept with
      | none => exact .cons (hcontentType m) .nil
      | some ms => exact .cons (hcontentType m) (.cons (haccept ms) .nil)

theorem get?_contentType_fresh (t : Template) :
    t.fresh.headers.get? "Content-Type" = .ok (t.contentType.map MediaType.text) := by
  rw [t.coherent_fresh.get?_of_written (by decide) t.written_fresh, sought_contentType]
  obtain ⟨verb, url, contentType, accept⟩ := t
  cases contentType <;> cases accept <;> simp [declaredHeaders, Headers.joined]

theorem get?_accept_fresh (t : Template) :
    t.fresh.headers.get? "Accept" = .ok (t.accept.map acceptText) := by
  rw [t.coherent_fresh.get?_of_written (by decide) t.written_fresh, sought_accept]
  obtain ⟨verb, url, contentType, accept⟩ := t
  cases contentType <;> cases accept <;> simp [declaredHeaders, Headers.joined]

/-! ## Reading a template back -/

/-- A request that carries what a template declares and nothing else, each declared value in a header field
from which it is read back. -/
structure CarriedBy (t : Template) (r : Request) : Prop where
  verb : r.verb = t.verb
  url : r.template = t.url
  headers : r.headers.items? = some t.declaredHeaders
  rawNames : r.headers.rawNames =
    (t.contentType.map fun _ => "Content-Type").toList ++ (t.accept.map fun _ => "Accept").toList
  contentType : ∃ value, r.headers.get? "Content-Type" = .ok value ∧
    value.mapM MediaType.parse = .ok t.contentType
  accept : ∃ value, r.headers.get? "Accept" = .ok value ∧
    value.mapM (fun value => MediaType.parseList (MediaType.divide value)) = .ok t.accept
  /-- The rest is as in an empty request. -/
  rest : r = { verb := r.verb, template := r.template, headers := r.headers }

theorem rawNames_fresh (t : Template) :
    t.fresh.headers.rawNames =
      (t.contentType.map fun _ => "Content-Type").toList ++ (t.accept.map fun _ => "Accept").toList := by
  have hcontentType : bytesAsText "Content-Type".toUTF8 = "Content-Type" := by decide
  have haccept : bytesAsText "Accept".toUTF8 = "Accept" := by decide
  obtain ⟨verb, url, contentType, accept⟩ := t
  cases contentType <;> cases accept <;>
    simp only [fresh, headerFields, Headers.rawNames, HeaderField.make, Option.map_some, Option.map_none,
      Option.toList_some, Option.toList_none, List.nil_append, List.append_nil, List.cons_append,
      List.map_cons, List.map_nil, hcontentType, haccept]

/-- A compiled template makes a request that carries it. -/
theorem newRequest_carries (h : compile method type = .ok t) :
    ∃ r, t.newRequest = (.ok (), r) ∧ t.CarriedBy r := by
  obtain ⟨hcontentType, haccept⟩ := exists_of_compile h
  refine ⟨t.fresh, t.newRequest_eq, ?_⟩
  constructor
  case verb => rfl
  case url => rfl
  case headers => exact t.coherent_fresh.items?_of_written t.written_fresh
  case rawNames => exact t.rawNames_fresh
  case contentType =>
    refine ⟨_, t.get?_contentType_fresh, ?_⟩
    cases hm : t.contentType with
    | none => rfl
    | some m =>
        rw [hm] at hcontentType
        have hparse := (canonical_contentType hcontentType).parse_text
        rw [Option.map_some, Option.mapM_some, hparse]
        rfl
  case accept =>
    refine ⟨_, t.get?_accept_fresh, ?_⟩
    cases hms : t.accept with
    | none => rfl
    | some ms =>
        rw [hms] at haccept
        obtain ⟨hne, hcanonical⟩ := canonical_accept haccept
        have hparse := MediaType.parseList_divide hne hcanonical
        rw [Option.map_some, Option.mapM_some, acceptText, hparse]
        rfl
  case rest => rfl

theorem newRequest_carries_quoted :
    let note : MediaType :=
      { type := "text", subtype := "plain", parameters := [("note", "a, \x22b\x22 \x5c é")] }
    let method : Exchange :=
      { url := "/notes", method := "POST", contentType := note.text, accept := [note.text, "*/*"] }
    ∃ t r, compile (some method) none = .ok t ∧ t.contentType = some note ∧
      t.accept = some [note, .all] ∧ t.newRequest = (.ok (), r) ∧ t.CarriedBy r := by
  intro note method
  have hnote : note.Canonical :=
    { type := ⟨by decide, by simp [note]⟩
      subtype := ⟨by decide, by simp [note]⟩
      names := by
        simp only [note, List.forall_mem_singleton]
        exact ⟨by decide, by simp⟩
      wildcard := by decide }
  have hcompile : compile (some method) none = .ok
      { verb := some .post, url := some "/notes", contentType := some note, accept := some [note, .all] } := by
    have hverb : verb? (some method) none = .ok (some .post) := by
      dsimp only [method, note]
      rfl
    have hurl : url? (some method) none = some "/notes" := by
      dsimp only [method, note]
      rfl
    have hdeclared : effective? Exchange.contentType (some method) none = some note.text := by
      dsimp only [method, note]
      rfl
    have hcontentType : contentType? (some method) none = .ok (some note) := by
      simp only [contentType?, hdeclared, hnote.parse_text]
    have hlist : MediaType.parseList [note.text, "*/*"] = .ok [note, .all] :=
      mapM_eq_ok_iff.mpr (.cons hnote.parse_text (.cons MediaType.canonical_all.parse_text .nil))
    have haccept : accept? (some method) none = .ok (some [note, .all]) := by
      have hdeclared : (acceptOf? (some method)).or (acceptOf? none) = some [note.text, "*/*"] := rfl
      simp only [accept?, hdeclared, hlist]
    rw [compile, hverb, hcontentType, haccept, hurl]
    rfl
  obtain ⟨r, hr, hcarries⟩ := newRequest_carries hcompile
  exact ⟨_, r, hcompile, rfl, rfl, hr, hcarries⟩

end Template

end HttpContract
