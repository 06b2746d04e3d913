import HttpContract.Proofs.MediaType.RoundTrip
import HttpContract.Proofs.Steps

/-!
# Lists of media types

A header field lists media types between commas. A comma inside quotes belongs to a parameter value, and a
mark after a backslash does not end the quotes, so a list is divided from left to right. The text of a media
type is left whole by that: a list of canonical media types is read back from the joined texts.
-/

namespace HttpContract.MediaType

/-! ## Dividing a list -/

/-- Where a character of a list stands. -/
inductive Place where
  | outside
  | quoted
  /-- After a backslash between quotes. -/
  | escaped
deriving Repr, DecidableEq, Inhabited

/-- The place after a character. -/
def Place.next : Place → Char → Place
  | outside, c => if c = Text.doubleMark then quoted else outside
  | quoted, c =>
    if c = Text.doubleMark then outside else if c = Text.backslash then escaped else quoted
  | escaped, _ => quoted

/-- The pieces between the commas outside quotes; there is always at least one. -/
def divideFrom : Place → List Char → List (List Char)
  | _, [] => [[]]
  | place, c :: s =>
    if place = .outside ∧ c = ',' then [] :: divideFrom .outside s
    else (divideFrom (place.next c) s).modifyHead (c :: ·)

def divide (s : String) : List String := (divideFrom .outside s.toList).map String.ofList

/-! ## Texts without a dividing comma -/

/-- A text that leads from one place to another and that no comma of its own divides. -/
inductive Undivided : Place → List Char → Place → Prop
  | nil (p : Place) : Undivided p [] p
  | cons {p q : Place} {c : Char} {s : List Char} (hc : ¬ (p = .outside ∧ c = ','))
      (hs : Undivided (p.next c) s q) : Undivided p (c :: s) q

namespace Undivided

variable {p q q' : Place} {c : Char} {s t v : List Char}

theorem append (hs : Undivided p s q) (ht : Undivided q t q') : Undivided p (s ++ t) q' := by
  induction hs with
  | nil p => exact ht
  | cons hc _ ih => exact .cons hc (ih ht)

theorem of_outside (h : ∀ c ∈ s, c ≠ ',' ∧ c ≠ Text.doubleMark) : Undivided .outside s .outside := by
  induction s with
  | nil => exact .nil _
  | cons c s ih =>
      obtain ⟨⟨hcomma, hmark⟩, hs⟩ := List.forall_mem_cons.mp h
      refine .cons (fun hc => hcomma hc.2) ?_
      rw [Place.next, if_neg hmark]
      exact ih hs

theorem of_isToken (h : isToken s = true) : Undivided .outside s .outside := by
  refine of_outside fun c hc => ?_
  have htoken : isTokenChar c = true := Token.isTokenChar_of_mem (t := ⟨s, h⟩) hc
  constructor
  · rintro rfl
    exact absurd htoken (by decide)
  · rintro rfl
    exact absurd htoken (by decide)

/-! ## The parts of a written media type -/

theorem escape (c : Char) : Undivided .quoted (escape c) .quoted := by
  have hinside : ∀ c : Char, ¬ (Place.quoted = .outside ∧ c = ',') := fun c h => nomatch h.1
  unfold MediaType.escape
  split
  · have hbackslash : Place.quoted.next Text.backslash = .escaped := by decide
    refine .cons (hinside _) (.cons ?_ (.nil _))
    rw [hbackslash]
    exact fun h => nomatch h.1
  · rename_i h
    simp only [Bool.or_eq_true, decide_eq_true_eq, not_or] at h
    have hplain : Place.quoted.next c = .quoted := by rw [Place.next, if_neg h.1, if_neg h.2]
    refine .cons (hinside c) ?_
    rw [hplain]
    exact .nil _

theorem flatMap_escape (v : List Char) : Undivided .quoted (v.flatMap MediaType.escape) .quoted := by
  induction v with
  | nil => exact .nil _
  | cons c v ih => exact (escape c).append ih

theorem writeValue (v : List Char) : Undivided .outside (writeValue v) .outside := by
  unfold MediaType.writeValue
  split
  · rename_i h
    exact of_isToken h
  · have hopen : Undivided .outside [Text.doubleMark] .quoted := .cons (by decide) (.nil _)
    have hclose : Undivided .quoted [Text.doubleMark] .outside := .cons (by decide) (.nil _)
    exact hopen.append ((flatMap_escape v).append hclose)

theorem writeParameter {parameter : String × String} (hname : isToken parameter.1.toList = true) :
    Undivided .outside (writeParameter parameter) .outside := by
  have hsemicolon : Undivided .outside [';'] .outside := .cons (by decide) (.nil _)
  have hequals : Undivided .outside ['='] .outside := .cons (by decide) (.nil _)
  have h := ((hsemicolon.append (of_isToken hname)).append hequals).append (writeValue parameter.2.toList)
  simpa [MediaType.writeParameter] using h

theorem flatMap_writeParameter {parameters : List (String × String)}
    (h : ∀ parameter ∈ parameters, isToken parameter.1.toList = true) :
    Undivided .outside (parameters.flatMap MediaType.writeParameter) .outside := by
  induction parameters with
  | nil => exact .nil _
  | cons parameter parameters ih =>
      obtain ⟨hname, hrest⟩ := List.forall_mem_cons.mp h
      exact (writeParameter hname).append (ih hrest)

end Undivided

theorem Canonical.undivided {m : MediaType} (h : m.Canonical) :
    Undivided .outside m.write .outside := by
  have hslash : Undivided .outside ['/'] .outside := .cons (by decide) (.nil _)
  have hessence := (Undivided.of_isToken h.type.1).append (hslash.append (.of_isToken h.subtype.1))
  exact hessence.append (.flatMap_writeParameter fun parameter hp => (h.names parameter hp).1)

/-! ## Dividing what was joined -/

variable {p q : Place} {s : List Char} {texts : List (List Char)}

theorem divideFrom_append (hs : Undivided p s q) (t : List Char) :
    divideFrom p (s ++ t) = (divideFrom q t).modifyHead (s ++ ·) := by
  induction hs with
  | nil p =>
      rw [List.nil_append]
      cases divideFrom p t with
      | nil => rfl
      | cons piece more => rfl
  | cons hc _ ih =>
      rw [List.cons_append, divideFrom, if_neg hc, ih, List.modifyHead_modifyHead]
      rfl

theorem divideFrom_comma (hs : Undivided .outside s .outside) (t : List Char) :
    divideFrom .outside (s ++ ',' :: t) = s :: divideFrom .outside t := by
  rw [divideFrom_append hs, divideFrom, if_pos ⟨rfl, rfl⟩, List.modifyHead_cons, List.append_nil]

theorem divideFrom_whole (hs : Undivided .outside s .outside) : divideFrom .outside s = [s] := by
  have h := divideFrom_append hs []
  rwa [List.append_nil, divideFrom, List.modifyHead_cons, List.append_nil] at h

/-- The blank after a comma goes to the piece that it begins. -/
theorem divideFrom_intercalate (hs : Undivided .outside s .outside)
    (htexts : ∀ t ∈ texts, Undivided .outside t .outside) :
    divideFrom .outside ([',', ' '].intercalate (s :: texts)) = s :: texts.map (' ' :: ·) := by
  have hblank : Undivided .outside [' '] .outside := .cons (by decide) (.nil _)
  induction texts generalizing s with
  | nil =>
      rw [List.intercalate_singleton]
      exact divideFrom_whole hs
  | cons t texts ih =>
      obtain ⟨ht, htexts⟩ := List.forall_mem_cons.mp htexts
      -- The blank is divided off with the rest of the list and stays before its first piece.
      have hjoined : [',', ' '].intercalate (s :: t :: texts) =
          s ++ ',' :: ([' '] ++ [',', ' '].intercalate (t :: texts)) := by
        rw [List.intercalate_cons_cons]
        simp only [List.append_assoc, List.cons_append, List.nil_append]
      rw [hjoined, divideFrom_comma hs, divideFrom_append hblank, ih ht htexts]
      rfl

/-! ## Reading a list -/

theorem Canonical.parse_after_blank {m : MediaType} (h : m.Canonical) :
    parse (String.ofList (' ' :: m.write)) = .ok m := by
  apply h.parse_of_trim
  rw [String.toList_ofList]
  exact h.trim_write

/-- A list of canonical media types is read back from their texts between commas, entry for entry. -/
theorem parseList_divide {ms : List MediaType} (hne : ms ≠ []) (h : ∀ m ∈ ms, m.Canonical) :
    parseList (divide (", ".intercalate (ms.map text))) = .ok ms := by
  cases ms with
  | nil => exact absurd rfl hne
  | cons m ms =>
      obtain ⟨hm, hms⟩ := List.forall_mem_cons.mp h
      have htexts : ((m :: ms).map text).map String.toList = m.write :: ms.map write := by
        simp [text, Function.comp_def]
      have hwhole : ∀ t ∈ ms.map write, Undivided .outside t .outside := by
        intro t ht
        obtain ⟨m', hm', rfl⟩ := List.mem_map.mp ht
        exact (hms m' hm').undivided
      have hpieces : divide (", ".intercalate ((m :: ms).map text)) =
          m.text :: ms.map fun m => String.ofList (' ' :: m.write) := by
        have hseparator : ", ".toList = [',', ' '] := rfl
        rw [divide, String.toList_intercalate, htexts, hseparator,
          divideFrom_intercalate hm.undivided hwhole, List.map_cons, List.map_map, List.map_map]
        rfl
      rw [hpieces, parseList, mapM_eq_ok_iff, List.forall₂_cons]
      refine ⟨hm.parse_text, ?_⟩
      rw [List.forall₂_map_left_iff, List.forall₂_same]
      exact fun m' hm' => (hms m' hm').parse_after_blank

example : divide "a/b;c=\x22x, \x5c\x22y\x22, d/e" = ["a/b;c=\x22x, \x5c\x22y\x22", " d/e"] := by decide

end HttpContract.MediaType
