import HttpContract.Proofs.MediaType.Reading
import HttpContract.Proofs.Steps
import HttpContract.Proofs.Text.Capitals
import HttpContract.Template

/-!
# What overrides what

The verb, the content type and the accepted types of a template are each taken from one of two declarations:
from that of the method if it says something there, else from that of the interface. What the interface says
in a part that the method overrides is not looked at. `Template.overrides` is the whole law; the first
invalid part, in this order, is why two declarations make no template.
-/

namespace HttpContract

namespace Template

variable {method type : Option Exchange} {t : Template} {e : Error}

/-! ## Parts -/

/-- The parts of a template that are taken from one declaration. -/
inductive Part where
  | verb
  | contentType
  | accept
deriving Repr, DecidableEq, Inhabited

namespace Part

variable {part other : Part}

/-- The target with the part as the source says it. -/
def copy (source target : Exchange) : Part → Exchange
  | verb => { target with method := source.method }
  | contentType => { target with contentType := source.contentType }
  | accept => { target with accept := source.accept }

/-- The declaration says something in the part: a text that is not blank, or a list that is not empty. -/
def Declares (e : Exchange) : Part → Prop
  | verb => Text.isBlankText e.method = false
  | contentType => Text.isBlankText e.contentType = false
  | accept => e.accept ≠ []

def DeclaredBy (e : Option Exchange) (part : Part) : Prop := ∃ x ∈ e, part.Declares x

/-- The template has nothing in the part. -/
def MissingIn (t : Template) : Part → Prop
  | verb => t.verb = none
  | contentType => t.contentType = none
  | accept => t.accept = none

/-- What an optional declaration says in the part, as a list of texts. -/
def said? (e : Option Exchange) : Part → Option (List String)
  | verb => (declared? Exchange.method e).map fun text => [text]
  | contentType => (declared? Exchange.contentType e).map fun text => [text]
  | accept => acceptOf? e

/-- What the method's declaration says in the part, else what the interface's says. -/
def effective? (method type : Option Exchange) (part : Part) : Option (List String) :=
  (part.said? method).or (part.said? type)

/-- The text stands for nothing that the part could hold. -/
def Unreadable (text : String) : Part → Prop
  | verb => ∀ v : Verb, ¬ v.SpelledBy text
  | contentType => ∀ m, ¬ MediaType.Denotes (Text.trim text.toList) m
  | accept => ∀ m, ¬ MediaType.Denotes (Text.trim text.toList) m

/-- Some text that is effective in the part cannot be read. -/
def Invalid (method type : Option Exchange) (part : Part) : Prop :=
  ∃ texts ∈ part.effective? method type, ∃ text ∈ texts, part.Unreadable text

/-- The error that reports a text of the part. -/
inductive Reports : Part → String → Error → Prop
  | verb (text : String) : Reports verb text (.verb text)
  | contentType {text : String} {e : MediaType.ParseError} (he : MediaType.parse text = .error e) :
      Reports contentType text (.contentType e)
  | accept {text : String} {e : MediaType.ParseError} (he : MediaType.parse text = .error e) :
      Reports accept text (.accept e)

/-- The error reports the first text that is effective in the part and cannot be read. -/
def Faults (method type : Option Exchange) (e : Error) (part : Part) : Prop :=
  ∃ before text after, part.effective? method type = some (before ++ text :: after) ∧
    (∀ earlier ∈ before, ¬ part.Unreadable earlier) ∧ part.Unreadable text ∧ part.Reports text e

/-- The parts in the order in which they are read. -/
def all : List Part := [verb, contentType, accept]

theorem said?_eq_none_iff {e : Option Exchange} : part.said? e = none ↔ ¬ part.DeclaredBy e := by
  cases e with
  | none => cases part <;> simp [said?, declared?, acceptOf?, DeclaredBy]
  | some x => cases part <;> simp [said?, declared?, acceptOf?, DeclaredBy, Declares]

theorem effective?_verb : verb.effective? method type =
    (Template.effective? Exchange.method method type).map fun text => [text] := Option.map_or.symm

theorem effective?_contentType : contentType.effective? method type =
    (Template.effective? Exchange.contentType method type).map fun text => [text] := Option.map_or.symm

/-- An absent declaration says as little as an empty one. -/
theorem said?_getD (e : Option Exchange) : part.said? (some (e.getD {})) = part.said? e := by
  cases e with
  | none => cases part <;> rfl
  | some x => rfl

theorem said?_copy (source target : Exchange) :
    part.said? (some (part.copy source target)) = part.said? (some source) := by
  cases part <;> rfl

theorem said?_copy_of_ne (h : other ≠ part) (source target : Exchange) :
    other.said? (some (part.copy source target)) = other.said? (some target) := by
  cases part <;> cases other <;> first | rfl | exact absurd rfl h

theorem url_copy (source target : Exchange) : (part.copy source target).url = target.url := by
  cases part <;> rfl

end Part

/-! ## Compiling alike -/

theorem declared?_url_getD (e : Option Exchange) :
    declared? Exchange.url (some (e.getD {})) = declared? Exchange.url e := by
  cases e <;> rfl

theorem effective?_eq_of_map {field : Exchange → String} {method' type' : Option Exchange}
    (h : (((declared? field method).map fun text => [text]).or ((declared? field type).map fun text => [text]))
      = (((declared? field method').map fun text => [text]).or
          ((declared? field type').map fun text => [text]))) :
    effective? field method type = effective? field method' type' := by
  rw [← Option.map_or, ← Option.map_or] at h
  exact Option.map_injective (fun _ _ h => List.singleton_inj.mp h) h

section Alike

variable {method' type' : Option Exchange}

/-- The address apart, declarations are merged alike if they agree on each part. -/
theorem compile_eq_map (hparts : ∀ part : Part, part.effective? method type = part.effective? method' type') :
    compile method type = (compile method' type').map ({ · with url := url? method type }) := by
  have hverb : verb? method type = verb? method' type' := by
    rw [verb?, verb?, effective?_eq_of_map (hparts .verb)]
  have hcontentType : contentType? method type = contentType? method' type' := by
    rw [contentType?, contentType?, effective?_eq_of_map (hparts .contentType)]
  have haccept : accept? method type = accept? method' type' := by
    have hsaid : (acceptOf? method).or (acceptOf? type) = (acceptOf? method').or (acceptOf? type') :=
      hparts .accept
    rw [accept?, accept?, hsaid]
  rw [compile, compile, hverb, hcontentType, haccept]
  cases verb? method' type' with
  | error e => rfl
  | ok verb =>
      cases contentType? method' type' with
      | error e => rfl
      | ok contentType => cases accept? method' type' <;> rfl

theorem compile_congr (hparts : ∀ part : Part, part.effective? method type = part.effective? method' type')
    (hurl : url? method type = url? method' type') : compile method type = compile method' type' := by
  rw [compile_eq_map hparts, hurl]
  exact (compile_eq_map fun _ => rfl).symm

end Alike

variable {part : Part}

/-- What the interface says in a part that the method overrides does not matter. -/
theorem compile_copy_type (h : part.DeclaredBy method) (source : Exchange) :
    compile method (some (part.copy source (type.getD {}))) = compile method type := by
  refine compile_congr (fun other => ?_) ?_
  · unfold Part.effective?
    by_cases hother : other = part
    · subst hother
      cases hsaid : other.said? method with
      | none => exact absurd h (Part.said?_eq_none_iff.mp hsaid)
      | some texts => rfl
    · rw [Part.said?_copy_of_ne hother, Part.said?_getD]
  · have hurl : declared? Exchange.url (some (part.copy source (type.getD {}))) =
        declared? Exchange.url type := by
      rw [← declared?_url_getD type, declared?, declared?, Part.url_copy]
    simp only [url?, hurl]

/-- What the method leaves open is as if the interface had said it on the method. -/
theorem compile_copy_method (h : ¬ part.DeclaredBy method) :
    compile (some (part.copy (type.getD {}) (method.getD {}))) type = compile method type := by
  refine compile_congr (fun other => ?_) ?_
  · unfold Part.effective?
    by_cases hother : other = part
    · subst hother
      rw [Part.said?_copy, Part.said?_getD, Part.said?_eq_none_iff.mpr h, Option.or_self, Option.none_or]
    · rw [Part.said?_copy_of_ne hother, Part.said?_getD]
  · have hurl : declared? Exchange.url (some (part.copy (type.getD {}) (method.getD {}))) =
        declared? Exchange.url method := by
      rw [← declared?_url_getD method, declared?, declared?, Part.url_copy]
    simp only [url?, hurl]

/-! ## Parts that are missing -/

theorem compile_eq_ok_iff :
    compile method type = .ok t ↔ verb? method type = .ok t.verb ∧ url? method type = t.url ∧
      contentType? method type = .ok t.contentType ∧ accept? method type = .ok t.accept := by
  obtain ⟨verb, url, contentType, accept⟩ := t
  unfold compile
  cases verb? method type with
  | error e => simp [bind, Except.bind]
  | ok verb' =>
      cases contentType? method type with
      | error e => simp [bind, Except.bind]
      | ok contentType' =>
          cases accept? method type with
          | error e => simp [bind, Except.bind]
          | ok accept' => simp [bind, Except.bind, pure, Except.pure]

/-- The verb that a text reads as. -/
def readVerb (text : String) : Except Error Verb :=
  match Verb.ofDeclared? text with
  | some v => .ok v
  | none => .error (.verb text)

theorem verb?_eq : verb? method type = (effective? Exchange.method method type).mapM readVerb := by
  unfold verb?
  cases effective? Exchange.method method type with
  | none => rfl
  | some text =>
      simp only [Option.mapM_some, readVerb]
      cases Verb.ofDeclared? text <;> rfl

theorem contentType?_eq : contentType? method type =
    (effective? Exchange.contentType method type).mapM fun text =>
      (MediaType.parse text).mapError .contentType := by
  unfold contentType?
  cases effective? Exchange.contentType method type with
  | none => rfl
  | some text =>
      simp only [Option.mapM_some]
      cases MediaType.parse text <;> rfl

theorem accept?_eq : accept? method type =
    ((acceptOf? method).or (acceptOf? type)).mapM fun texts =>
      (MediaType.parseList texts).mapError .accept := by
  unfold accept?
  cases (acceptOf? method).or (acceptOf? type) with
  | none => rfl
  | some texts =>
      simp only [Option.mapM_some]
      cases MediaType.parseList texts <;> rfl

theorem missingIn_iff (h : compile method type = .ok t) {part : Part} :
    part.MissingIn t ↔ part.effective? method type = none := by
  obtain ⟨hverb, -, hcontentType, haccept⟩ := compile_eq_ok_iff.mp h
  cases part with
  | verb =>
      rw [Part.MissingIn, eq_none_iff_of_mapM (verb?_eq ▸ hverb)]
      simp [Part.effective?, Part.said?, effective?]
  | contentType =>
      rw [Part.MissingIn, eq_none_iff_of_mapM (contentType?_eq ▸ hcontentType)]
      simp [Part.effective?, Part.said?, effective?]
  | accept =>
      rw [Part.MissingIn, eq_none_iff_of_mapM (accept?_eq ▸ haccept)]
      rfl

/-! ## Parts that are invalid -/

theorem unreadable_media_iff {text : String} :
    (∀ m, ¬ MediaType.Denotes (Text.trim text.toList) m) ↔ ∃ e, MediaType.parse text = .error e := by
  constructor
  · intro h
    cases hparse : MediaType.parse text with
    | ok m => exact absurd (MediaType.denotes_of_parse hparse) (h m)
    | error e => exact ⟨e, rfl⟩
  · rintro ⟨e, he⟩ m hm
    rw [hm.parse_eq] at he
    cases he

theorem readVerb_eq_error_iff {text : String} :
    readVerb text = .error e ↔ Part.verb.Unreadable text ∧ Part.verb.Reports text e := by
  rw [Part.Unreadable, ← Verb.ofDeclared?_eq_none_iff, readVerb]
  cases Verb.ofDeclared? text with
  | some v => simp
  | none =>
      simp only [Except.error.injEq, true_and]
      exact ⟨fun h => h ▸ .verb text, fun h => by cases h; rfl⟩

theorem parse_contentType_eq_error_iff {text : String} :
    (MediaType.parse text).mapError .contentType = .error e ↔
      Part.contentType.Unreadable text ∧ Part.contentType.Reports text e := by
  rw [mapError_eq_error_iff, Part.Unreadable, unreadable_media_iff]
  constructor
  · rintro ⟨e', he', rfl⟩
    exact ⟨⟨e', he'⟩, .contentType he'⟩
  · rintro ⟨-, hreports⟩
    cases hreports with
    | contentType he' => exact ⟨_, he', rfl⟩

theorem parse_accept_eq_error_iff {texts : List String} :
    (MediaType.parseList texts).mapError .accept = .error e ↔
      ∃ before text after, texts = before ++ text :: after ∧
        (∀ earlier ∈ before, ¬ Part.accept.Unreadable earlier) ∧ Part.accept.Unreadable text ∧
          Part.accept.Reports text e := by
  have hreads : ∀ text, (!(MediaType.parse text).isOk) = true ↔ Part.accept.Unreadable text := by
    intro text
    rw [Part.Unreadable, unreadable_media_iff]
    cases MediaType.parse text <;> simp [Except.isOk, Except.toBool]
  rw [mapError_eq_error_iff, MediaType.parseList]
  simp only [mapM_eq_error_iff, List.find?_eq_some_iff_append, hreads]
  constructor
  · rintro ⟨e', ⟨text, ⟨hunreadable, before, after, rfl, hbefore⟩, he'⟩, rfl⟩
    refine ⟨before, text, after, rfl, fun earlier hearlier => ?_, hunreadable, .accept he'⟩
    rw [← hreads]
    simpa using hbefore earlier hearlier
  · rintro ⟨before, text, after, rfl, hbefore, hunreadable, hreports⟩
    cases hreports with
    | accept he' =>
        refine ⟨_, ⟨text, ⟨hunreadable, before, after, rfl, fun earlier hearlier => ?_⟩, he'⟩, rfl⟩
        have hreadable := hbefore earlier hearlier
        rw [← hreads] at hreadable
        simpa using hreadable

/-- Whether the part alone can be read. -/
def Part.outcome (method type : Option Exchange) : Part → Except Error Unit
  | verb => (verb? method type).map fun _ => ()
  | contentType => (contentType? method type).map fun _ => ()
  | accept => (accept? method type).map fun _ => ()

variable {part : Part}

theorem faults_iff_of_single {said : Option String}
    (h : part.effective? method type = said.map fun text => [text]) :
    part.Faults method type e ↔ ∃ text ∈ said, part.Unreadable text ∧ part.Reports text e := by
  unfold Part.Faults
  rw [h]
  constructor
  · rintro ⟨before, text, after, htexts, -, hunreadable, hreports⟩
    obtain ⟨text', hsaid, htexts⟩ := Option.map_eq_some_iff.mp htexts
    cases before with
    | nil =>
        obtain ⟨rfl, -⟩ := List.cons.inj htexts
        exact ⟨text', hsaid, hunreadable, hreports⟩
    | cons first before => simp at htexts
  · rintro ⟨text, rfl, hunreadable, hreports⟩
    exact ⟨[], text, [], rfl, by simp, hunreadable, hreports⟩

theorem faults_iff : part.Faults method type e ↔ part.outcome method type = .error e := by
  cases part with
  | verb =>
      rw [faults_iff_of_single Part.effective?_verb, Part.outcome, map_eq_error_iff, verb?_eq,
        optionMapM_eq_error_iff]
      simp only [readVerb_eq_error_iff]
  | contentType =>
      rw [faults_iff_of_single Part.effective?_contentType, Part.outcome, map_eq_error_iff, contentType?_eq,
        optionMapM_eq_error_iff]
      simp only [parse_contentType_eq_error_iff]
  | accept =>
      rw [Part.outcome, map_eq_error_iff, accept?_eq, optionMapM_eq_error_iff]
      simp only [parse_accept_eq_error_iff]
      constructor
      · rintro ⟨before, text, after, htexts, hfirst⟩
        exact ⟨_, htexts, before, text, after, rfl, hfirst⟩
      · rintro ⟨_, htexts, before, text, after, rfl, hfirst⟩
        exact ⟨before, text, after, htexts, hfirst⟩

theorem Part.exists_reports {text : String} (h : part.Unreadable text) : ∃ e, part.Reports text e := by
  cases part with
  | verb => exact ⟨_, .verb text⟩
  | contentType =>
      obtain ⟨e, he⟩ := unreadable_media_iff.mp h
      exact ⟨_, .contentType he⟩
  | accept =>
      obtain ⟨e, he⟩ := unreadable_media_iff.mp h
      exact ⟨_, .accept he⟩

theorem invalid_iff : part.Invalid method type ↔ ∃ e, part.Faults method type e := by
  constructor
  · rintro ⟨texts, htexts, text, htext, hunreadable⟩
    classical
    have hsome : (texts.find? fun s => decide (part.Unreadable s)).isSome := by
      rw [List.find?_isSome]
      exact ⟨text, htext, by simpa using hunreadable⟩
    obtain ⟨first, hfirst⟩ := Option.isSome_iff_exists.mp hsome
    obtain ⟨hunreadable, before, after, rfl, hbefore⟩ := List.find?_eq_some_iff_append.mp hfirst
    obtain ⟨e, he⟩ := Part.exists_reports (of_decide_eq_true hunreadable)
    exact ⟨e, before, first, after, htexts, fun s hs => by simpa using hbefore s hs,
      of_decide_eq_true hunreadable, he⟩
  · rintro ⟨e, before, text, after, htexts, -, hunreadable, -⟩
    exact ⟨_, htexts, text, by simp, hunreadable⟩

/-- The parts are read one after the other. -/
theorem compile_eq_error_iff_mapM :
    compile method type = .error e ↔ Part.all.mapM (Part.outcome method type) = .error e := by
  simp only [compile, Part.all, List.mapM_cons, List.mapM_nil, Part.outcome]
  cases verb? method type with
  | error e' => simp [bind, Except.bind, Except.map]
  | ok verb =>
      cases contentType? method type with
      | error e' => simp [bind, Except.bind, Except.map]
      | ok contentType =>
          cases accept? method type <;> simp [bind, Except.bind, Except.map, pure, Except.pure]

/-- The first part that cannot be read is why there is no template. -/
theorem compile_eq_error_iff :
    compile method type = .error e ↔ ∃ before part after, Part.all = before ++ part :: after ∧
      (∀ earlier ∈ before, ¬ earlier.Invalid method type) ∧ part.Faults method type e := by
  have hvalid : ∀ part : Part, (!(part.outcome method type).isOk) = false ↔
      ¬ part.Invalid method type := by
    intro part
    simp only [invalid_iff, faults_iff]
    cases part.outcome method type <;> simp [Except.isOk, Except.toBool]
  rw [compile_eq_error_iff_mapM, mapM_eq_error_iff]
  simp only [← faults_iff, List.find?_eq_some_iff_append]
  constructor
  · rintro ⟨part, ⟨-, before, after, hall, hbefore⟩, hfaults⟩
    refine ⟨before, part, after, hall, fun earlier hearlier => ?_, hfaults⟩
    rw [← hvalid]
    simpa using hbefore earlier hearlier
  · rintro ⟨before, part, after, hall, hbefore, hfaults⟩
    refine ⟨part, ⟨?_, before, after, hall, fun earlier hearlier => ?_⟩, hfaults⟩
    · rw [faults_iff.mp hfaults]
      rfl
    · rw [(hvalid earlier).mpr (hbefore earlier hearlier)]
      rfl

theorem outcome_of_compile (h : compile method type = .ok t) (part : Part) :
    part.outcome method type = .ok () := by
  obtain ⟨hverb, -, hcontentType, haccept⟩ := compile_eq_ok_iff.mp h
  cases part <;> simp [Part.outcome, hverb, hcontentType, haccept, Except.map]

theorem exists_compile_error_iff :
    (∃ e, compile method type = .error e) ↔ ∃ part : Part, part.Invalid method type := by
  constructor
  · rintro ⟨e, he⟩
    obtain ⟨-, part, -, -, -, hfaults⟩ := compile_eq_error_iff.mp he
    exact ⟨part, invalid_iff.mpr ⟨e, hfaults⟩⟩
  · rintro ⟨part, hinvalid⟩
    cases hcompile : compile method type with
    | error e => exact ⟨e, rfl⟩
    | ok t =>
        obtain ⟨e, hfaults⟩ := invalid_iff.mp hinvalid
        rw [faults_iff, outcome_of_compile hcompile] at hfaults
        cases hfaults

/-! ## The law -/

/-- How a declaration of a method and one of its interface are merged. -/
structure Overrides (method type : Option Exchange) : Prop where
  /-- Where the method declares a part, nothing that the interface says there makes a difference. -/
  overridden : ∀ part : Part, part.DeclaredBy method → ∀ source : Exchange,
    compile method (some (part.copy source (type.getD {}))) = compile method type
  /-- Where it does not, all is as if the interface had said its part on the method. -/
  inherited : ∀ part : Part, ¬ part.DeclaredBy method →
    compile (some (part.copy (type.getD {}) (method.getD {}))) type = compile method type
  /-- What neither declares is missing, and nothing else. -/
  missing : ∀ t, compile method type = .ok t →
    ∀ part : Part, part.MissingIn t ↔ ¬ part.DeclaredBy method ∧ ¬ part.DeclaredBy type
  /-- There is no template exactly if some effective part is invalid. -/
  fails : (∃ e, compile method type = .error e) ↔ ∃ part : Part, part.Invalid method type
  /-- The first of them is reported, and in it the first text that cannot be read. -/
  reported : ∀ e, compile method type = .error e ↔
    ∃ before part after, Part.all = before ++ part :: after ∧
      (∀ earlier ∈ before, ¬ earlier.Invalid method type) ∧ part.Faults method type e

/-- Two declarations are always merged by the law. -/
theorem overrides (method type : Option Exchange) : Overrides method type where
  overridden part h source := compile_copy_type h source
  inherited part h := compile_copy_method h
  missing t h part := by
    rw [missingIn_iff h, Part.effective?, Option.or_eq_none_iff, Part.said?_eq_none_iff,
      Part.said?_eq_none_iff]
  fails := exists_compile_error_iff
  reported _ := compile_eq_error_iff

end Template

end HttpContract
