import HttpContract.Text.Pattern
import HttpContract.Proofs.Text.Run

/-!
# What patterns take

`Pattern.Takes p t` says that `p` takes the text `t`, without regard to the order in which its ways are
tried. The ways of a pattern are exactly these (`Pattern.takes_of_mem_ways`,
`Pattern.Takes.exists_mem_ways`), and they alone decide whether there is a full match. Which way comes
first, and so what the groups hold, is said by the lemmas `first?_…`.
-/

namespace HttpContract.Text

namespace Pattern

inductive Takes : Pattern → List Char → Prop where
  | one {kind c} (hc : kind c = true) : Takes (one kind) [c]
  | seq {p q t t'} (hp : Takes p t) (hq : Takes q t') : Takes (seq p q) (t ++ t')
  | left {p q t} (hp : Takes p t) : Takes (alt p q) t
  | right {p q t} (hq : Takes q t) : Takes (alt p q) t
  | done {p} : Takes (star p) []
  | again {p t t'} (ht : t ≠ []) (hp : Takes p t) (hs : Takes (star p) t') : Takes (star p) (t ++ t')
  | group {name p t} (hp : Takes p t) : Takes (group name p) t

variable {p q : Pattern} {kind : Char → Bool} {s t r : List Char} {c : Char}
  {g g' : List (String × List Char)} {m : Match} {name : String}

/-! ## The ways of a pattern are what it takes -/

theorem mem_rounds_iff {ways : List Char → List Match} :
    m ∈ rounds ways s ↔ m = ⟨[], s⟩ ∨
      ∃ m₁ ∈ ways s, m₁.rest.length < s.length ∧ ∃ m₂ ∈ rounds ways m₁.rest, m = m₁.andThen m₂ := by
  rw [rounds]
  simp only [List.mem_append, List.mem_flatMap, List.mem_singleton, dite_eq_ite]
  constructor
  · rintro (⟨m₁, h₁, hm⟩ | rfl)
    · split at hm
      · rename_i hlt
        obtain ⟨m₂, h₂, rfl⟩ := List.mem_map.mp hm
        exact .inr ⟨m₁, h₁, hlt, m₂, h₂, rfl⟩
      · cases hm
    · exact .inl rfl
  · rintro (rfl | ⟨m₁, h₁, hlt, m₂, h₂, rfl⟩)
    · exact .inr rfl
    · exact .inl ⟨m₁, h₁, by rw [if_pos hlt]; exact List.mem_map_of_mem h₂⟩

theorem takes_of_mem_rounds {ways : List Char → List Match}
    (hways : ∀ s, ∀ m ∈ ways s, ∃ t, s = t ++ m.rest ∧ p.Takes t) (h : m ∈ rounds ways s) :
    ∃ t, s = t ++ m.rest ∧ (star p).Takes t := by
  -- by the length of the text: each round that counts leaves less of it
  induction hn : s.length using Nat.strongRecOn generalizing s m with
  | ind n ih =>
      subst hn
      obtain rfl | ⟨m₁, h₁, hlt, m₂, h₂, rfl⟩ := mem_rounds_iff.mp h
      · exact ⟨[], rfl, .done⟩
      · obtain ⟨t, rfl, ht⟩ := hways s m₁ h₁
        obtain ⟨t', hrest, ht'⟩ := ih _ hlt h₂ rfl
        refine ⟨t ++ t', by rw [List.append_assoc, hrest]; rfl, .again ?_ ht ht'⟩
        rintro rfl
        exact absurd hlt (by simp)

theorem takes_of_mem_ways (h : m ∈ p.ways s) : ∃ t, s = t ++ m.rest ∧ p.Takes t := by
  -- by the pattern; a repetition is left to the lemma above
  induction p generalizing s m with
  | one kind =>
      cases s with
      | nil => simp [ways] at h
      | cons c s =>
          rw [ways] at h
          split at h
          · rename_i hc
            rw [List.mem_singleton.mp h]
            exact ⟨[c], rfl, .one hc⟩
          · cases h
  | seq p q ihp ihq =>
      obtain ⟨m₁, h₁, hm⟩ := List.mem_flatMap.mp h
      obtain ⟨m₂, h₂, rfl⟩ := List.mem_map.mp hm
      obtain ⟨t, rfl, ht⟩ := ihp h₁
      obtain ⟨t', hrest, ht'⟩ := ihq h₂
      exact ⟨t ++ t', by rw [List.append_assoc, hrest]; rfl, .seq ht ht'⟩
  | alt p q ihp ihq =>
      obtain h | h := List.mem_append.mp h
      · obtain ⟨t, hs, ht⟩ := ihp h
        exact ⟨t, hs, .left ht⟩
      · obtain ⟨t, hs, ht⟩ := ihq h
        exact ⟨t, hs, .right ht⟩
  | star p ih => exact takes_of_mem_rounds (fun _ _ hm => ih hm) h
  | group name p ih =>
      obtain ⟨m₁, h₁, rfl⟩ := List.mem_map.mp h
      obtain ⟨t, hs, ht⟩ := ih h₁
      exact ⟨t, hs, .group ht⟩

theorem Takes.exists_mem_ways (h : p.Takes t) (r : List Char) : ∃ g, ⟨g, r⟩ ∈ p.ways (t ++ r) := by
  induction h generalizing r with
  | one hc => exact ⟨[], by simp [ways, hc]⟩
  | @seq p q t t' _ _ ihp ihq =>
      obtain ⟨g, hg⟩ := ihp (t' ++ r)
      obtain ⟨g', hg'⟩ := ihq r
      rw [List.append_assoc]
      exact ⟨g ++ g', List.mem_flatMap.mpr ⟨_, hg, List.mem_map.mpr ⟨_, hg', rfl⟩⟩⟩
  | left _ ih =>
      obtain ⟨g, hg⟩ := ih r
      exact ⟨g, List.mem_append_left _ hg⟩
  | right _ ih =>
      obtain ⟨g, hg⟩ := ih r
      exact ⟨g, List.mem_append_right _ hg⟩
  | done => exact ⟨[], mem_rounds_iff.mpr (.inl rfl)⟩
  | @again p t t' ht _ _ ihp ihs =>
      obtain ⟨g, hg⟩ := ihp (t' ++ r)
      obtain ⟨g', hg'⟩ := ihs r
      -- a round that takes something is tried, so the guard lets it through
      rw [List.append_assoc]
      refine ⟨g ++ g', mem_rounds_iff.mpr (.inr ⟨_, hg, ?_, _, hg', rfl⟩)⟩
      have := List.length_pos_iff.mpr ht
      simp only [List.length_append]
      omega
  | group _ ih =>
      obtain ⟨g, hg⟩ := ih r
      exact ⟨_, List.mem_map.mpr ⟨_, hg, rfl⟩⟩

theorem takes_of_fullMatch? (h : p.fullMatch? s = some m) : p.Takes s := by
  have hrest : m.rest = [] := by simpa using List.find?_some h
  obtain ⟨t, hs, ht⟩ := takes_of_mem_ways (List.mem_of_find?_eq_some h)
  rw [hrest, List.append_nil] at hs
  exact hs ▸ ht

/-- There is a full match unless the pattern cannot take the text. -/
theorem fullMatch?_eq_none_iff : p.fullMatch? s = none ↔ ¬ p.Takes s := by
  constructor
  · intro h hs
    obtain ⟨g, hg⟩ := hs.exists_mem_ways []
    rw [List.append_nil] at hg
    exact List.find?_eq_none.mp h _ hg rfl
  · intro h
    cases hm : p.fullMatch? s with
    | none => rfl
    | some m => exact absurd (takes_of_fullMatch? hm) h

/-- The first way of all is the full match if it takes the whole text. -/
theorem fullMatch?_of_first? (h : p.first? s = some ⟨g, []⟩) : p.fullMatch? s = some ⟨g, []⟩ := by
  obtain ⟨ms, hms⟩ := List.head?_eq_some_iff.mp h
  rw [fullMatch?, hms]
  rfl

/-! ## What each kind of pattern takes -/

theorem Takes.of_one (h : (Pattern.one kind).Takes t) : ∃ c, kind c = true ∧ t = [c] := by
  obtain ⟨hc⟩ := h
  exact ⟨_, hc, rfl⟩

theorem Takes.of_mark (h : (mark c).Takes t) : t = [c] := by
  obtain ⟨d, hd, rfl⟩ := h.of_one
  rw [of_decide_eq_true hd]

theorem Takes.of_append (h : (p ++ q).Takes s) : ∃ t t', p.Takes t ∧ q.Takes t' ∧ s = t ++ t' := by
  cases h with
  | seq hp hq => exact ⟨_, _, hp, hq, rfl⟩

theorem Takes.of_alt (h : (alt p q).Takes t) : p.Takes t ∨ q.Takes t := by
  cases h with
  | left hp => exact .inl hp
  | right hq => exact .inr hq

theorem Takes.of_group (h : (Pattern.group name p).Takes t) : p.Takes t := by
  cases h with
  | group hp => exact hp

/-- A repetition of words is a text of such words one after another. -/
theorem Takes.of_star {α : Type} {word : α → List Char} (hp : ∀ t, p.Takes t → ∃ a, t = word a)
    (h : (star p).Takes t) : ∃ as : List α, t = as.flatMap word := by
  generalize hstar : star p = p' at h
  induction h with
  | one | seq | left | right | group => cases hstar
  | done => exact ⟨[], rfl⟩
  | again _ hfirst _ _ ih =>
      cases hstar
      obtain ⟨a, rfl⟩ := hp _ hfirst
      obtain ⟨as, rfl⟩ := ih rfl
      exact ⟨a :: as, rfl⟩

theorem Takes.of_star_one (h : (star (Pattern.one kind)).Takes t) : ∀ c ∈ t, kind c = true := by
  have hword : ∀ t, (Pattern.one kind).Takes t → ∃ c : { c // kind c = true }, t = [c.1] := by
    intro t ht
    obtain ⟨c, hc, rfl⟩ := ht.of_one
    exact ⟨⟨c, hc⟩, rfl⟩
  obtain ⟨cs, rfl⟩ := h.of_star hword
  intro c hc
  obtain ⟨d, -, hd⟩ := List.mem_flatMap.mp hc
  rw [List.mem_singleton.mp hd]
  exact d.2

/-! ## The first way -/

theorem first?_one (hc : kind c = true) : (one kind).first? (c :: s) = some ⟨[], s⟩ := by
  simp [first?, ways, hc]

theorem first?_mark (c : Char) (s : List Char) : (mark c).first? (c :: s) = some ⟨[], s⟩ :=
  first?_one (by simp)

theorem ways_append_of_nil (hp : p.ways s = []) : (p ++ q).ways s = [] := by
  have hways : (p ++ q).ways s = (p.ways s).flatMap fun m => (q.ways m.rest).map m.andThen := rfl
  rw [hways, hp]
  rfl

theorem first?_append (hp : p.first? s = some ⟨g, t⟩) (hq : q.first? t = some ⟨g', r⟩) :
    (p ++ q).first? s = some ⟨g ++ g', r⟩ := by
  have hways : (p ++ q).ways s = (p.ways s).flatMap fun m => (q.ways m.rest).map m.andThen := rfl
  obtain ⟨ms, hms⟩ := List.head?_eq_some_iff.mp hp
  obtain ⟨ms', hms'⟩ := List.head?_eq_some_iff.mp hq
  rw [first?, hways, hms, List.flatMap_cons, hms']
  rfl

theorem first?_alt_left (hp : p.first? s = some m) : (alt p q).first? s = some m := by
  obtain ⟨ms, hms⟩ := List.head?_eq_some_iff.mp hp
  rw [first?, ways, hms]
  rfl

theorem first?_alt_right (hp : p.ways s = []) : (alt p q).first? s = q.first? s := by
  rw [first?, ways, hp]
  rfl

theorem first?_group (name : String) (hp : p.first? (t ++ r) = some ⟨g, r⟩) :
    (group name p).first? (t ++ r) = some ⟨g ++ [(name, t)], r⟩ := by
  obtain ⟨ms, hms⟩ := List.head?_eq_some_iff.mp hp
  rw [first?, ways, hms]
  simp

theorem first?_star_nil (hp : p.ways s = []) : (star p).first? s = some ⟨[], s⟩ := by
  rw [first?, ways, rounds, hp]
  rfl

theorem first?_star_cons (hp : p.first? s = some ⟨g, t⟩) (hlt : t.length < s.length)
    (hs : (star p).first? t = some ⟨g', r⟩) : (star p).first? s = some ⟨g ++ g', r⟩ := by
  obtain ⟨ms, hms⟩ := List.head?_eq_some_iff.mp hp
  obtain ⟨ms', hms'⟩ := List.head?_eq_some_iff.mp hs
  rw [ways] at hms'
  rw [first?, ways, rounds, hms, List.flatMap_cons, dif_pos hlt, hms']
  rfl

theorem ways_one_of_stops (hr : Stops kind r) : (one kind).ways r = [] := by
  cases r with
  | nil => rfl
  | cons c r => simp [ways, stops_cons.mp hr]

/-- A run of characters of one kind is first taken as a whole. -/
theorem first?_star_one (ht : ∀ c ∈ t, kind c = true) (hr : Stops kind r) :
    (star (one kind)).first? (t ++ r) = some ⟨[], r⟩ := by
  induction t with
  | nil => exact first?_star_nil (ways_one_of_stops hr)
  | cons c t ih =>
      exact first?_star_cons (first?_one (ht c (by simp))) (by simp) (ih fun d hd => ht d (by simp [hd]))

/-! ## From match to match -/

theorem scan_of_first? (hne : t ≠ []) (h : p.first? (t ++ r) = some ⟨g, r⟩) :
    p.scan (t ++ r) = ⟨g, r⟩ :: p.scan r := by
  cases t with
  | nil => exact absurd rfl hne
  | cons c t =>
      rw [List.cons_append] at h ⊢
      rw [scan, h]
      simp

theorem replace_of_first? (f : Match → List Char) (hne : t ≠ [])
    (h : p.first? (t ++ r) = some ⟨g, r⟩) :
    p.replace f (t ++ r) = f ⟨g, r⟩ ++ p.replace f r := by
  cases t with
  | nil => exact absurd rfl hne
  | cons c t =>
      rw [List.cons_append] at h ⊢
      rw [replace, h]
      simp

theorem replace_of_ways_nil (f : Match → List Char) (h : p.ways (c :: s) = []) :
    p.replace f (c :: s) = c :: p.replace f s := by
  rw [replace, first?, h]
  rfl

end Pattern

end HttpContract.Text
