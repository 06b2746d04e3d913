import HttpContract.Proofs.Steps
import HttpContract.Service.Interface
import Mathlib.Data.List.Nodup

/-!
# Lineages below others

A merge takes an element away from every sequence at once, so that nothing comes out of it twice. Hence the
lineage of an interface begins with the interface itself, and what is above it are different interfaces before
it. Merged with its own first element such a lineage stays as it is: an interface with one base has the
lineage of that base above itself.
-/

namespace HttpContract

namespace Lineage

variable {b c steps place : Nat} {s l above : List Nat} {seqs : List (List Nat)}

/-! ## One step of a merge -/

theorem exists_head_of_candidate? (h : candidate? seqs = some c) : ∃ s ∈ seqs, s.head? = some c := by
  obtain ⟨s, hs, hc⟩ := List.exists_of_findSome?_eq_some h
  exact ⟨s, hs, (Option.filter_eq_some_iff.mp hc).1⟩

theorem notMem_tail_of_candidate? (h : candidate? seqs = some c) (hs : s ∈ seqs) : c ∉ s.tail := by
  obtain ⟨s', -, hc⟩ := List.exists_of_findSome?_eq_some h
  obtain ⟨-, hfree⟩ := Option.filter_eq_some_iff.mp hc
  simp only [Bool.not_eq_true', List.any_eq_false, List.contains_eq_mem, decide_eq_true_eq] at hfree
  exact hfree s hs

theorem candidate?_cons (hs : c ∉ s) (hseqs : ∀ t ∈ seqs, c ∉ t.tail) :
    candidate? ((c :: s) :: seqs) = some c := by
  have hfree : (((c :: s) :: seqs).any fun t => t.tail.contains c) = false := by
    simpa [hs] using hseqs
  simp only [candidate?, List.findSome?_cons, List.head?_cons, Option.filter_some, hfree, Bool.not_false,
    if_true]

theorem mem_of_mem_dropHead {x : Nat} (h : x ∈ dropHead c s) : x ∈ s := by
  unfold dropHead at h
  split at h
  · exact List.mem_of_mem_tail h
  · exact h

/-- An element that comes later in no sequence is in none without the heads equal to it. -/
theorem notMem_dropHead (h : c ∉ s.tail) : c ∉ dropHead c s := by
  unfold dropHead
  split
  · exact h
  · rename_i hhead
    cases s with
    | nil => exact List.not_mem_nil
    | cons d s =>
        rw [List.head?_cons, Option.some.injEq] at hhead
        exact List.not_mem_cons_of_ne_of_not_mem (Ne.symm hhead) h

/-! ## Whole merges -/

theorem mergeWithin_of_candidate? (h : candidate? seqs = some c) :
    mergeWithin (steps + 1) seqs = (mergeWithin steps (seqs.map (dropHead c))).map (c :: ·) := by
  have hsome : ¬ seqs.all List.isEmpty = true := by
    obtain ⟨s, hs, hhead⟩ := exists_head_of_candidate? h
    intro hempty
    have hnil := List.isEmpty_iff.mp (List.all_eq_true.mp hempty s hs)
    rw [hnil] at hhead
    cases hhead
  simp only [mergeWithin, if_neg hsome, h]

/-- A merge has nothing twice, and nothing that none of its sequences has. -/
theorem nodup_of_mergeWithin (h : mergeWithin steps seqs = .ok l) :
    l.Nodup ∧ ∀ x ∈ l, ∃ s ∈ seqs, x ∈ s := by
  -- by the steps: what is taken first comes later in no sequence, so nothing after it is equal to it
  induction steps generalizing seqs l with
  | zero =>
      rw [mergeWithin] at h
      split at h
      · cases h
        exact ⟨.nil, nofun⟩
      · cases h
  | succ steps ih =>
      rw [mergeWithin] at h
      split at h
      · cases h
        exact ⟨.nil, nofun⟩
      · split at h
        · cases h
        · rename_i c hc
          obtain ⟨rest, hrest, rfl⟩ := map_eq_ok_iff.mp h
          obtain ⟨hnodup, hfrom⟩ := ih hrest
          have hsource : ∀ x ∈ rest, ∃ s ∈ seqs, x ∈ dropHead c s := by
            intro x hx
            obtain ⟨_, hdropped, hxs⟩ := hfrom x hx
            obtain ⟨s, hs, rfl⟩ := List.mem_map.mp hdropped
            exact ⟨s, hs, hxs⟩
          refine ⟨List.nodup_cons.mpr ⟨fun hmem => ?_, hnodup⟩, List.forall_mem_cons.mpr ⟨?_, ?_⟩⟩
          · obtain ⟨s, hs, hcs⟩ := hsource c hmem
            exact notMem_dropHead (notMem_tail_of_candidate? hc hs) hcs
          · obtain ⟨s, hs, hhead⟩ := exists_head_of_candidate? hc
            exact ⟨s, hs, List.mem_of_mem_head? hhead⟩
          · intro x hx
            obtain ⟨s, hs, hxs⟩ := hsource x hx
            exact ⟨s, hs, mem_of_mem_dropHead hxs⟩

theorem mergeWithin_single (hl : l.Nodup) (hsteps : l.length ≤ steps) :
    mergeWithin steps [l, []] = .ok l := by
  induction l generalizing steps with
  | nil => cases steps <;> rfl
  | cons c l ih =>
      obtain ⟨hc, hl⟩ := List.nodup_cons.mp hl
      obtain ⟨steps, rfl⟩ := Nat.exists_eq_add_one_of_ne_zero (Nat.ne_zero_of_lt hsteps)
      have hcandidate : candidate? [c :: l, []] = some c := candidate?_cons hc (by simp)
      have hdrop : [c :: l, []].map (dropHead c) = [l, []] := by simp [dropHead]
      rw [mergeWithin_of_candidate? hcandidate, hdrop, ih hl (Nat.le_of_succ_le_succ hsteps)]
      rfl

/-- Different elements are merged with the first of them to themselves. -/
theorem merge_head (h : (b :: above).Nodup) : merge [b :: above, [b]] = .ok (b :: above) := by
  obtain ⟨hb, habove⟩ := List.nodup_cons.mp h
  have hcandidate : candidate? [b :: above, [b]] = some b := candidate?_cons hb (by simp)
  have hlength : ([b :: above, [b]] : List (List Nat)).flatten.length = above.length + 1 + 1 := by simp
  have hdrop : [b :: above, [b]].map (dropHead b) = [above, []] := by simp [dropHead]
  rw [merge, hlength, mergeWithin_of_candidate? hcandidate, hdrop, mergeWithin_single habove (Nat.le_succ _)]
  rfl

/-! ## Lineages in order -/

/-- A lineage of an interface: the interface itself, then different ones before it. -/
def Descends (place : Nat) (l : List Nat) : Prop :=
  ∃ above, l = place :: above ∧ above.Nodup ∧ ∀ x ∈ above, x < place

theorem Descends.nodup (h : Descends place l) : l.Nodup := by
  obtain ⟨above, rfl, hnodup, hbefore⟩ := h
  exact List.nodup_cons.mpr ⟨fun hmem => Nat.lt_irrefl _ (hbefore _ hmem), hnodup⟩

theorem Descends.le (h : Descends place l) {x : Nat} (hx : x ∈ l) : x ≤ place := by
  obtain ⟨above, rfl, -, hbefore⟩ := h
  rcases List.mem_cons.mp hx with rfl | hx
  · exact Nat.le_refl _
  · exact Nat.le_of_lt (hbefore x hx)

def AllDescend (known : List (Option (List Nat))) : Prop :=
  ∀ place l, known[place]? = some (some l) → Descends place l

variable {known : List (Option (List Nat))} {bases : List Nat}

theorem descends_of (hknown : AllDescend known) (h : of known known.length bases = .ok l) :
    Descends known.length l := by
  unfold of at h
  split at h
  · cases h
  · rename_i above habove
    have hbases := forall₂_of_mapM_eq_some habove
    obtain ⟨merged, hmerge, rfl⟩ := map_eq_ok_iff.mp h
    obtain ⟨hnodup, hfrom⟩ := nodup_of_mergeWithin hmerge
    refine ⟨merged, rfl, hnodup, fun x hx => ?_⟩
    obtain ⟨s, hs, hxs⟩ := hfrom x hx
    rcases List.mem_append.mp hs with hs | hs
    · obtain ⟨b, -, hb⟩ := exists_left_of_mem hbases hs
      have hknownb := Option.join_eq_some_iff.mp hb
      have hlt := (List.getElem?_eq_some_iff.mp hknownb).1
      exact Nat.lt_of_le_of_lt ((hknown b s hknownb).le hxs) hlt
    · cases List.mem_singleton.mp hs
      obtain ⟨s, -, hb⟩ := exists_right_of_mem hbases hxs
      exact (List.getElem?_eq_some_iff.mp (Option.join_eq_some_iff.mp hb)).1

theorem allDescend_nil : AllDescend [] := nofun

theorem AllDescend.append_of (h : AllDescend known) (bases : List Nat) :
    AllDescend (known ++ [(of known known.length bases).toOption]) := by
  intro place l hl
  rcases Nat.lt_trichotomy place known.length with hlt | rfl | hgt
  · rw [List.getElem?_append_left hlt] at hl
    exact h place l hl
  · rw [List.getElem?_concat_length, Option.some.injEq] at hl
    exact descends_of h (eq_ok_of_toOption hl)
  · have hlength : (known ++ [(of known known.length bases).toOption]).length ≤ place := by
      rw [List.length_append, List.length_singleton]
      omega
    rw [List.getElem?_eq_none hlength] at hl
    cases hl

theorem AllDescend.extend (h : AllDescend known) (rest : List (List Nat)) :
    AllDescend (extend known rest) := by
  induction rest generalizing known with
  | nil => exact h
  | cons bases rest ih => exact ih (h.append_of bases)

/-! ## Interfaces with one base -/

/-- What comes later leaves a lineage as it is. -/
theorem extend_getElem?_of_lt (rest : List (List Nat)) (h : place < known.length) :
    (extend known rest)[place]? = known[place]? := by
  induction rest generalizing known with
  | nil => rfl
  | cons bases rest ih =>
      rw [extend, ih (by rw [List.length_append]; omega), List.getElem?_append_left h]

theorem of_single (h : AllDescend known) :
    (of known place [b]).toOption = ((known[b]?).join).map (place :: ·) := by
  cases hb : (known[b]?).join with
  | none => simp [of, hb, Except.toOption]
  | some l =>
      have hdescends := h b l (Option.join_eq_some_iff.mp hb)
      have hnodup := hdescends.nodup
      obtain ⟨above, rfl, -⟩ := hdescends
      simp [of, hb, merge_head hnodup, Except.map, Except.toOption]

end Lineage

namespace Interfaces

variable {is : Interfaces} {place base : Nat} {i : Interface}

/-- The lineage of an interface is made from those of the interfaces before it. -/
theorem exists_lineages (h : is.list[place]? = some i) :
    ∃ known, Lineage.AllDescend known ∧ (∀ b < place, is.lineages[b]? = known[b]?) ∧
      is.lineages[place]? = some (Lineage.of known place i.bases).toOption := by
  obtain ⟨hlt, hi⟩ := List.getElem?_eq_some_iff.mp h
  let before := (is.list.take place).map Interface.bases
  let after := (is.list.drop (place + 1)).map Interface.bases
  let known := Lineage.extend [] before
  have hlength : known.length = place := by
    simp only [known, before, Lineage.length_extend, List.length_map, List.length_take, List.length_nil]
    omega
  -- only what stands before the interface has a part in its lineage
  have hsplit : is.list.map Interface.bases = before ++ i.bases :: after := by
    simp only [before, after]
    rw [← hi, ← List.map_cons, ← List.drop_eq_getElem_cons hlt, ← List.map_append, List.take_append_drop]
  have hlineages : ∀ b ≤ place,
      is.lineages[b]? = (known ++ [(Lineage.of known place i.bases).toOption])[b]? := by
    intro b hb
    have hextended : b < (known ++ [(Lineage.of known place i.bases).toOption]).length := by
      rw [List.length_append, List.length_singleton]
      omega
    rw [lineages, hsplit, Lineage.extend_append, Lineage.extend, hlength,
      Lineage.extend_getElem?_of_lt after hextended]
  refine ⟨known, Lineage.allDescend_nil.extend before, fun b hb => ?_, ?_⟩
  · rw [hlineages b (Nat.le_of_lt hb), List.getElem?_append_left (hlength ▸ hb)]
  · rw [hlineages place (Nat.le_refl _), ← hlength, List.getElem?_concat_length]

/-- An interface with one base is followed by the lineage of the base. -/
theorem lineage_of_single (h : is.list[place]? = some i) (hbases : i.bases = [base]) (hbelow : base < place) :
    (is.lineages[place]?).join = ((is.lineages[base]?).join).map (place :: ·) := by
  obtain ⟨known, hdescend, hbefore, hplace⟩ := exists_lineages h
  rw [hplace, hbases, Option.join_some, Lineage.of_single hdescend, hbefore base hbelow]

end Interfaces

end HttpContract
