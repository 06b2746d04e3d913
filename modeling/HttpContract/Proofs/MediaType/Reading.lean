import HttpContract.Proofs.MediaType.Grammar
import HttpContract.Proofs.Text.Pattern

/-!
# Reading is deriving

The pattern of media types takes exactly the texts that the grammar derives, after blanks. Its first way
through such a text groups the words as the derivation does, and the scan of the parameters, which knows
nothing of that way, finds each of them again (`parameters_of_fullMatch?`). The backslashes then go from the
quoted values. So what is read is what the derivation says.
-/

namespace HttpContract.MediaType

open Text (Pattern)
open Text.Pattern

variable {s t r : List Char}

/-! ## What the patterns take -/

theorem takes_blanks (h : blanksPattern.Takes t) : ∃ b : Blanks, t = b.chars :=
  ⟨⟨t, h.of_star_one⟩, rfl⟩

theorem takes_token (h : tokenPattern.Takes t) : ∃ token : Token, t = token.chars := by
  obtain ⟨_, cs, hfirst, hmore, rfl⟩ := h.of_append
  obtain ⟨c, hc, rfl⟩ := hfirst.of_one
  have hcs := hmore.of_star_one
  exact ⟨⟨c :: cs, by simpa [isToken, hc] using hcs⟩, rfl⟩

theorem takes_quotedChar (h : quotedCharPattern.Takes t) : ∃ q : QuotedChar, t = q.text := by
  obtain h | h := h.of_alt
  · obtain ⟨c, hc, rfl⟩ := h.of_one
    have hc := of_decide_eq_true hc
    exact ⟨.plain c hc.1 hc.2, rfl⟩
  · obtain ⟨_, _, hmark, hchar, rfl⟩ := h.of_append
    obtain rfl := hmark.of_mark
    obtain ⟨c, hc, rfl⟩ := hchar.of_one
    exact ⟨.escaped c (of_decide_eq_true hc), rfl⟩

theorem takes_value (h : valuePattern.Takes t) : ∃ v : WrittenValue, t = v.text := by
  obtain h | h := h.of_alt
  · obtain ⟨token, rfl⟩ := takes_token h
    exact ⟨.token token, rfl⟩
  · obtain ⟨_, _, hfront, hclose, rfl⟩ := h.of_append
    obtain ⟨_, _, hopen, hchars, rfl⟩ := hfront.of_append
    obtain ⟨cs, rfl⟩ := hchars.of_star fun _ => takes_quotedChar
    rw [hopen.of_mark, hclose.of_mark]
    exact ⟨.quoted cs, rfl⟩

theorem takes_parameter (h : (parameterPattern id id).Takes t) : ∃ p : WrittenParameter, t = p.text := by
  -- from the last part to the first, as the pattern is put together
  obtain ⟨_, _, h₇, hafterValue, rfl⟩ := h.of_append
  obtain ⟨_, _, h₆, hvalue, rfl⟩ := h₇.of_append
  obtain ⟨_, _, h₅, hbeforeValue, rfl⟩ := h₆.of_append
  obtain ⟨_, _, h₄, hequals, rfl⟩ := h₅.of_append
  obtain ⟨_, _, h₃, hafterName, rfl⟩ := h₄.of_append
  obtain ⟨_, _, h₂, hname, rfl⟩ := h₃.of_append
  obtain ⟨_, _, hsemicolon, hbeforeName, rfl⟩ := h₂.of_append
  obtain ⟨beforeName, rfl⟩ := takes_blanks hbeforeName
  obtain ⟨name, rfl⟩ := takes_token hname
  obtain ⟨afterName, rfl⟩ := takes_blanks hafterName
  obtain ⟨beforeValue, rfl⟩ := takes_blanks hbeforeValue
  obtain ⟨value, rfl⟩ := takes_value hvalue
  obtain ⟨afterValue, rfl⟩ := takes_blanks hafterValue
  rw [hsemicolon.of_mark, hequals.of_mark]
  exact ⟨⟨beforeName, name, afterName, beforeValue, value, afterValue⟩, by simp [WrittenParameter.text]⟩

theorem takes_mediaType (h : mediaTypePattern.Takes s) :
    ∃ (b : Blanks) (d : Derivation), s = b.chars ++ d.text := by
  obtain ⟨_, _, h₅, hparameters, rfl⟩ := h.of_append
  obtain ⟨_, _, h₄, hafter, rfl⟩ := h₅.of_append
  obtain ⟨_, _, h₃, hsubtype, rfl⟩ := h₄.of_append
  obtain ⟨_, _, h₂, hslash, rfl⟩ := h₃.of_append
  obtain ⟨_, _, hbefore, htype, rfl⟩ := h₂.of_append
  obtain ⟨b, rfl⟩ := takes_blanks hbefore
  obtain ⟨type, rfl⟩ := takes_token htype.of_group
  obtain ⟨subtype, rfl⟩ := takes_token hsubtype.of_group
  obtain ⟨afterSubtype, rfl⟩ := takes_blanks hafter
  obtain ⟨ps, rfl⟩ := hparameters.of_group.of_star fun _ => takes_parameter
  rw [hslash.of_mark]
  exact ⟨b, ⟨type, subtype, afterSubtype, ps⟩, by simp [Derivation.text]⟩

/-! ## The first way through words and blanks -/

theorem first?_blanks (b : Blanks) (hr : Text.Stops Text.isBlank r) :
    blanksPattern.first? (b.chars ++ r) = some ⟨[], r⟩ :=
  first?_star_one b.isBlank_chars hr

theorem first?_token (t : Token) (hr : Text.Stops isTokenChar r) :
    tokenPattern.first? (t.chars ++ r) = some ⟨[], r⟩ := by
  have hall : ∀ c ∈ t.chars, isTokenChar c = true := fun _ => Token.isTokenChar_of_mem
  cases hchars : t.chars with
  | nil => exact absurd hchars t.chars_ne_nil
  | cons c cs =>
      rw [hchars] at hall
      exact first?_append (first?_one (hall c (by simp)))
        (first?_star_one (fun d hd => hall d (by simp [hd])) hr)

theorem first?_quotedChar (q : QuotedChar) (r : List Char) :
    quotedCharPattern.first? (q.text ++ r) = some ⟨[], r⟩ := by
  cases q with
  | plain c hmark hbackslash => exact first?_alt_left (first?_one (decide_eq_true ⟨hmark, hbackslash⟩))
  | escaped c hnewline =>
      have hplain : (one fun c => c ≠ Text.doubleMark ∧ c ≠ Text.backslash).ways
          (Text.backslash :: c :: r) = [] :=
        ways_one_of_stops (Text.stops_cons.mpr (by decide))
      refine (first?_alt_right hplain).trans ?_
      exact first?_append (first?_mark _ _) (first?_one (decide_eq_true hnewline))

theorem first?_quotedChars (cs : List QuotedChar) (r : List Char) :
    (star quotedCharPattern).first? (cs.flatMap QuotedChar.text ++ Text.doubleMark :: r)
      = some ⟨[], Text.doubleMark :: r⟩ := by
  induction cs with
  | nil => exact first?_star_nil rfl
  | cons q cs ih =>
      rw [List.flatMap_cons, List.append_assoc]
      refine first?_star_cons (first?_quotedChar q _) ?_ ih
      have hpos : 0 < q.text.length := by cases q <;> simp [QuotedChar.text]
      simp only [List.length_append]
      omega

theorem first?_value (v : WrittenValue) (hr : Text.Stops isTokenChar r) :
    valuePattern.first? (v.text ++ r) = some ⟨[], r⟩ := by
  cases v with
  | token t => exact first?_alt_left (first?_token t hr)
  | quoted cs =>
      have htext : (WrittenValue.quoted cs).text ++ r
          = Text.doubleMark :: (cs.flatMap QuotedChar.text ++ Text.doubleMark :: r) := by
        simp [WrittenValue.text]
      have htoken : tokenPattern.ways ((WrittenValue.quoted cs).text ++ r) = [] :=
        ways_append_of_nil (ways_one_of_stops (Text.stops_cons.mpr (by decide)))
      rw [valuePattern, first?_alt_right htoken, htext]
      exact first?_append (first?_append (first?_mark _ _) (first?_quotedChars cs r)) (first?_mark _ r)

/-! ## The first way through a parameter -/

theorem WrittenParameter.text_ne_nil (p : WrittenParameter) : p.text ≠ [] := by simp [text]

/-- What is kept of a parameter is what is kept of its name and of its value. -/
theorem first?_parameter (name value : Pattern → Pattern) (p : WrittenParameter) (hr : Ends r)
    {g g' : List (String × List Char)}
    (hname : ∀ {s}, Text.Stops isTokenChar s →
      (name tokenPattern).first? (p.name.chars ++ s) = some ⟨g, s⟩)
    (hvalue : ∀ {s}, Text.Stops isTokenChar s →
      (value valuePattern).first? (p.value.text ++ s) = some ⟨g', s⟩) :
    (parameterPattern name value).first? (p.text ++ r) = some ⟨g ++ g', r⟩ := by
  have hsemicolon := first?_mark ';' (p.beforeName.chars ++ (p.name.chars ++ (p.afterName.chars
    ++ '=' :: (p.beforeValue.chars ++ (p.value.text ++ (p.afterValue.chars ++ r))))))
  -- each part stops where the next one begins, so the longest way is the right one
  have h := first?_append hsemicolon (first?_blanks _ (Token.stops_isBlank_append _ _))
  have h := first?_append h (hname (Blanks.stops_append _ (ends_equals _).1))
  have h := first?_append h (first?_blanks _ (ends_equals _).2)
  have h := first?_append h (first?_mark '=' _)
  have h := first?_append h (first?_blanks _ (WrittenValue.stops_append _ _))
  have h := first?_append h (hvalue (Blanks.stops_append _ hr.1))
  have h := first?_append h (first?_blanks _ hr.2)
  simpa [parameterPattern, WrittenParameter.text] using h

theorem first?_parameters (ps : List WrittenParameter) :
    (star (parameterPattern id id)).first? (ps.flatMap WrittenParameter.text) = some ⟨[], []⟩ := by
  induction ps with
  | nil => exact first?_star_nil rfl
  | cons p ps ih =>
      have hends := WrittenParameter.ends_flatMap ps
      have hp := first?_parameter id id p hends (first?_token _) (first?_value _)
      refine first?_star_cons hp ?_ ih
      simp [WrittenParameter.text]
      omega

/-! ## Media types -/

/-- The words of a derivation as the groups of the pattern hold them. -/
def Derivation.groups (d : Derivation) : List (String × List Char) :=
  [("type", d.type.chars), ("subtype", d.subtype.chars),
    ("params", d.parameters.flatMap WrittenParameter.text)]

theorem fullMatch?_text (b : Blanks) (d : Derivation) :
    mediaTypePattern.fullMatch? (b.chars ++ d.text) = some ⟨d.groups, []⟩ := by
  have hends := WrittenParameter.ends_flatMap d.parameters
  have hparameters : (group "params" (star (parameterPattern id id))).first?
      (d.parameters.flatMap WrittenParameter.text)
        = some ⟨[("params", d.parameters.flatMap WrittenParameter.text)], []⟩ := by
    have h := first?_group "params" (r := []) (t := d.parameters.flatMap WrittenParameter.text)
      (by simpa using first?_parameters d.parameters)
    simpa using h
  have h := first?_blanks b (d.type.stops_isBlank_append ('/' :: (d.subtype.chars
    ++ (d.afterSubtype.chars ++ d.parameters.flatMap WrittenParameter.text))))
  have h := first?_append h (first?_group "type" (first?_token _ (stops_slash _)))
  have h := first?_append h (first?_mark '/' _)
  have h := first?_append h
    (first?_group "subtype" (first?_token _ (Blanks.stops_append _ hends.1)))
  have h := first?_append h (first?_blanks _ hends.2)
  exact fullMatch?_of_first? (first?_append h hparameters)

/-! ## The scan of the parameters -/

/-- The scan finds one match for each parameter, in order, and leaves nothing between them out. -/
theorem map_groups_scan (ps : List WrittenParameter) :
    ((parameterPattern (.group "name") (.group "value")).scan
        (ps.flatMap WrittenParameter.text)).map (·.groups)
      = ps.map fun p => [("name", p.name.chars), ("value", p.value.text)] := by
  induction ps with
  | nil => rw [List.flatMap_nil, scan]; rfl
  | cons p ps ih =>
      have hends := WrittenParameter.ends_flatMap ps
      have hp := first?_parameter (group "name") (group "value") p hends
        (fun hs => first?_group _ (first?_token _ hs)) (fun hs => first?_group _ (first?_value _ hs))
      rw [List.flatMap_cons, scan_of_first? p.text_ne_nil hp, List.map_cons, ih]
      rfl

theorem exists_of_fullMatch? {m : Text.Match} (h : mediaTypePattern.fullMatch? s = some m) :
    ∃ (b : Blanks) (d : Derivation), s = b.chars ++ d.text ∧ m = ⟨d.groups, []⟩ := by
  obtain ⟨b, d, rfl⟩ := takes_mediaType (takes_of_fullMatch? h)
  rw [fullMatch?_text] at h
  exact ⟨b, d, rfl, (Option.some.inj h).symm⟩

/-- Both patterns divide every text alike: what the first one takes for parameters is a row of them, and
the scan finds just these. -/
theorem parameters_of_fullMatch? {m : Text.Match} (h : mediaTypePattern.fullMatch? s = some m) :
    ∃ ps : List WrittenParameter, m.group "params" = ps.flatMap WrittenParameter.text ∧
      ((parameterPattern (.group "name") (.group "value")).scan (m.group "params")).map (·.groups)
        = ps.map fun p => [("name", p.name.chars), ("value", p.value.text)] := by
  obtain ⟨b, d, -, rfl⟩ := exists_of_fullMatch? h
  exact ⟨d.parameters, rfl, map_groups_scan d.parameters⟩

/-! ## Quoted values -/

theorem replace_escapes (cs : List QuotedChar) :
    escapePattern.replace (·.group "escaped") (cs.flatMap QuotedChar.text)
      = cs.map QuotedChar.char := by
  induction cs with
  | nil => rw [List.flatMap_nil, replace]; rfl
  | cons q cs ih =>
      rw [List.flatMap_cons, List.map_cons, ← ih]
      -- only a backslash begins a match, and it takes the character after it along
      cases q with
      | plain c _ hbackslash =>
          apply replace_of_ways_nil
          exact ways_append_of_nil (ways_one_of_stops (Text.stops_cons.mpr (by simpa using hbackslash)))
      | escaped c hnewline =>
          have hfirst : escapePattern.first? ([Text.backslash, c] ++ cs.flatMap QuotedChar.text)
              = some ⟨[("escaped", [c])], cs.flatMap QuotedChar.text⟩ :=
            first?_append (first?_mark _ _)
              (first?_group _ (t := [c]) (first?_one (decide_eq_true hnewline)))
          exact replace_of_first? _ (by simp) hfirst

theorem unquote_text (v : WrittenValue) : unquote v.text = v.content := by
  cases v with
  | token t =>
      have hhead : t.chars.head? ≠ some Text.doubleMark := by
        intro h
        exact absurd (Token.isTokenChar_of_mem (List.mem_of_mem_head? h)) (by decide)
      rw [unquote, if_neg fun h => hhead h.2.1]
      rfl
  | quoted cs =>
      have hclose : (WrittenValue.quoted cs).text
          = (Text.doubleMark :: cs.flatMap QuotedChar.text) ++ [Text.doubleMark] := by
        simp [WrittenValue.text]
      rw [unquote, if_pos]
      · simpa [WrittenValue.text, WrittenValue.content] using replace_escapes cs
      · rw [hclose]
        refine ⟨by simp, by simp, ?_⟩
        rw [List.getLast?_concat]

theorem parametersIn_text (ps : List WrittenParameter) :
    parametersIn (ps.flatMap WrittenParameter.text) = ps.map WrittenParameter.parameter := by
  let parameter (g : List (String × List Char)) : String × String :=
    (lowerText (Text.Match.group ⟨g, []⟩ "name"),
      String.ofList (unquote (Text.Match.group ⟨g, []⟩ "value")))
  have h := congrArg (List.map parameter) (map_groups_scan ps)
  rw [List.map_map, List.map_map] at h
  refine Eq.trans h (List.map_congr_left fun p _ => ?_)
  rw [WrittenParameter.parameter, ← unquote_text]
  rfl

/-! ## Texts between blanks -/

theorem parse_of_trim_nil {s : String} (h : Text.trim s.toList = []) : parse s = .error .empty := by
  simp [parse, h]

/-- A text is read by its derivation, a star by the one of the text it stands for. -/
theorem parse_of_text {s : String} {d : Derivation} (hnil : Text.trim s.toList ≠ [])
    (h : (if Text.trim s.toList = ['*'] then ['*', '/', '*'] else Text.trim s.toList) = d.text) :
    parse s = if d.mediaType.type = "*" ∧ d.mediaType.subtype ≠ "*" then .error (.wildcardType s)
      else .ok d.mediaType := by
  have hmatch : mediaTypePattern.fullMatch? d.text = some ⟨d.groups, []⟩ := fullMatch?_text .none d
  have hparameters : parametersIn (Text.Match.group ⟨d.groups, []⟩ "params") = d.mediaType.parameters :=
    parametersIn_text d.parameters
  rw [parse, if_neg (by simpa using hnil), h, hmatch]
  simp only [hparameters]
  rfl

theorem parse_of_trim_text {s : String} {d : Derivation} (h : Text.trim s.toList = d.text) :
    parse s = if d.mediaType.type = "*" ∧ d.mediaType.subtype ≠ "*" then .error (.wildcardType s)
      else .ok d.mediaType :=
  parse_of_text (h ▸ d.text_ne_nil) (by rw [h, if_neg d.text_ne_star])

theorem parse_of_trim_star {s : String} (h : Text.trim s.toList = ['*']) : parse s = .ok all :=
  parse_of_text (d := ⟨⟨['*'], by decide⟩, ⟨['*'], by decide⟩, .none, []⟩) (by simp [h])
    (by rw [h]; rfl)

theorem parse_of_no_derivation {s : String} (hnil : Text.trim s.toList ≠ [])
    (hstar : Text.trim s.toList ≠ ['*']) (h : ∀ d : Derivation, d.text ≠ Text.trim s.toList) :
    parse s = .error (.malformed s) := by
  have hmatch : mediaTypePattern.fullMatch? (Text.trim s.toList) = none := by
    rw [fullMatch?_eq_none_iff]
    intro htakes
    obtain ⟨b, d, hd⟩ := takes_mediaType htakes
    -- the text is trimmed, so the pattern takes no blanks in front
    have hfirst : Text.Stops Text.isBlank d.text := d.type.stops_isBlank_append _
    have htrim := Text.trimStart_of_stops (Text.stops_trim s.toList)
    rw [hd, Text.trimStart_append b.isBlank_chars hfirst, ← hd] at htrim
    exact h d htrim
  simp [parse, hnil, hstar, hmatch]

theorem Denotes.parse_eq {s : String} {m : MediaType} (h : Denotes (Text.trim s.toList) m) :
    parse s = .ok m := by
  rcases h with ⟨hstar, rfl⟩ | ⟨d, hd, hlegal, rfl⟩
  · exact parse_of_trim_star hstar
  · rw [parse_of_trim_text hd.symm, if_neg fun h => h.2 (d.legal_iff.mp hlegal h.1)]

theorem denotes_of_parse {s : String} {m : MediaType} (h : parse s = .ok m) :
    Denotes (Text.trim s.toList) m := by
  by_cases hnil : Text.trim s.toList = []
  · rw [parse_of_trim_nil hnil] at h
    cases h
  by_cases hstar : Text.trim s.toList = ['*']
  · rw [parse_of_trim_star hstar] at h
    cases h
    exact .inl ⟨hstar, rfl⟩
  by_cases hderived : ∃ d : Derivation, d.text = Text.trim s.toList
  · obtain ⟨d, hd⟩ := hderived
    rw [parse_of_trim_text hd.symm] at h
    split at h
    · cases h
    · rename_i hlegal
      cases h
      exact .inr ⟨d, hd, d.legal_iff.mpr (by simpa using hlegal), rfl⟩
  · rw [parse_of_no_derivation hnil hstar fun d hd => hderived ⟨d, hd⟩] at h
    cases h

/-- Reading accepts exactly the texts that denote a media type between their outer blanks, and gives that
media type. It refuses every other text. A text has at most one derivation, so nothing else could be
read. -/
theorem parse_eq_ok_iff_denotes (s : String) :
    (∀ m, parse s = .ok m ↔ Denotes (Text.trim s.toList) m) ∧
    ((∃ e, parse s = .error e) ↔ ∀ m, ¬ Denotes (Text.trim s.toList) m) ∧
    ∀ d d' : Derivation, d.text = Text.trim s.toList → d'.text = Text.trim s.toList → d = d' := by
  have hok : ∀ m, parse s = .ok m ↔ Denotes (Text.trim s.toList) m :=
    fun m => ⟨denotes_of_parse, Denotes.parse_eq⟩
  refine ⟨hok, ?_, ?_⟩
  · constructor
    · rintro ⟨e, he⟩ m hm
      rw [(hok m).mpr hm] at he
      cases he
    · intro h
      cases hparse : parse s with
      | ok m => exact absurd ((hok m).mp hparse) (h m)
      | error e => exact ⟨e, rfl⟩
  · intro d d' hd hd'
    exact Derivation.text_injective (hd.trans hd'.symm)

end HttpContract.MediaType
