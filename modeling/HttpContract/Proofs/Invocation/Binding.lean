import HttpContract.Binding
import Mathlib.Data.List.Basic

/-!
# Arguments that fit parameters

`Fits` says of arguments, without walking through them, when they fit the parameters of a method, and `Fills`
what each parameter is then given. Arguments are bound exactly when they fit.
-/

namespace HttpContract

/-! ## Signatures -/

/-- The place of a kind among parameters: positional-only ones come first, those given by name only last. -/
def ParameterKind.rank : ParameterKind → Nat
  | positionalOnly => 0
  | normal => 1
  | keywordOnly => 3

namespace Binding

variable {p q : Parameter} {ps : List Parameter} {positional vs : List Value} {named : Assoc String Value}
  {v : Value} {name : String}

/-- Parameters with different names, ordered by their kinds. -/
structure Signature (ps : List Parameter) : Prop where
  names : (ps.map Parameter.name).Nodup
  kinds : ps.Pairwise fun p q => p.kind.rank ≤ q.kind.rank

theorem Signature.tail (h : Signature (p :: ps)) : Signature ps :=
  ⟨(List.nodup_cons.mp h.names).2, (List.pairwise_cons.mp h.kinds).2⟩

theorem Signature.name_ne (h : Signature (p :: ps)) (hq : q ∈ ps) : q.name ≠ p.name := by
  intro hname
  exact (List.nodup_cons.mp h.names).1 (hname ▸ List.mem_map_of_mem hq)

/-- From the first parameter on that is given by name only, all are. -/
theorem Signature.countP_of_keywordOnly (h : Signature (p :: ps)) (hp : p.kind = .keywordOnly) :
    (p :: ps).countP (fun q => q.kind ≠ .keywordOnly) = 0 := by
  rw [List.countP_eq_zero]
  intro q hq
  rcases List.mem_cons.mp hq with rfl | hq
  · simp [hp]
  · have hrank := (List.pairwise_cons.mp h.kinds).1 q hq
    rw [hp] at hrank
    cases hkind : q.kind with
    | keywordOnly => simp
    | positionalOnly => simp [hkind, ParameterKind.rank] at hrank
    | normal => simp [hkind, ParameterKind.rank] at hrank

/-! ## Arguments that fit -/

/-- What the parameter at a place is given: its positional argument, else its named one, else its default. -/
def given? (positional : List Value) (named : Assoc String Value) (i : Nat) (p : Parameter) : Option Value :=
  (positional[i]?).or ((named.get? p.name).or p.default)

/-- The arguments of a call fit the parameters. -/
structure Fits (ps : List Parameter) (positional : List Value) (named : Assoc String Value) : Prop where
  /-- There are not more positional arguments than parameters that take one. -/
  room : positional.length ≤ ps.countP fun p => p.kind ≠ .keywordOnly
  /-- Every name is that of a parameter which may be named and received no positional argument. -/
  known : ∀ name ∈ named.map Prod.fst, ∃ (i : Nat) (p : Parameter), positional.length ≤ i ∧
    ps[i]? = some p ∧ p.name = name ∧ p.kind ≠ .positionalOnly
  /-- Every parameter that received no argument has a default. -/
  filled : ∀ (i : Nat) (p : Parameter), ps[i]? = some p → positional[i]? = none →
    named.get? p.name = none → p.default.isSome = true

/-- There is one value for each parameter, in order, namely what it is given. -/
structure Fills (ps : List Parameter) (positional : List Value) (named : Assoc String Value)
    (vs : List Value) : Prop where
  length : vs.length = ps.length
  value : ∀ (i : Nat) (p : Parameter), ps[i]? = some p → vs[i]? = given? positional named i p

/-! ### Named arguments -/

theorem mem_keys_iff : name ∈ named.map Prod.fst ↔ named.get? name ≠ none := by
  simp [Assoc.get?]

theorem mem_keys_erase {other : String} :
    name ∈ (named.erase other).map Prod.fst ↔ name ∈ named.map Prod.fst ∧ name ≠ other := by
  simp only [Assoc.erase, List.mem_map, List.mem_filter]
  constructor
  · rintro ⟨x, ⟨hx, hother⟩, rfl⟩
    exact ⟨⟨x, hx, rfl⟩, by simpa using hother⟩
  · rintro ⟨⟨x, hx, rfl⟩, hother⟩
    exact ⟨x, ⟨hx, by simpa using hother⟩, rfl⟩

theorem get?_erase_of_ne {other : String} (h : name ≠ other) :
    (named.erase other).get? name = named.get? name := by
  simp only [Assoc.get?, Assoc.erase, List.find?_filter]
  congr 2
  funext x
  by_cases hx : x.1 = name
  · simp [hx, h]
  · simp [hx]

theorem erase_of_get?_eq_none (h : named.get? name = none) : named.erase name = named := by
  rw [Assoc.erase, List.filter_eq_self]
  intro x hx
  have hne : x.1 ≠ name := fun hname => mem_keys_iff.mp (hname ▸ List.mem_map_of_mem hx) h
  simpa using hne

/-! ### A parameter that takes a positional argument -/

theorem fits_cons_cons_iff (hp : p.kind ≠ .keywordOnly) :
    Fits (p :: ps) (v :: positional) named ↔ Fits ps positional named := by
  have hroom : (v :: positional).length ≤ (p :: ps).countP (fun p => p.kind ≠ .keywordOnly) ↔
      positional.length ≤ ps.countP fun p => p.kind ≠ .keywordOnly := by
    rw [List.countP_cons_of_pos (by simpa using hp), List.length_cons, Nat.add_le_add_iff_right]
  constructor
  · intro h
    refine ⟨hroom.mp h.room, fun name hname => ?_, fun i q hq => h.filled (i + 1) q hq⟩
    obtain ⟨i, q, hi, hq⟩ := h.known name hname
    cases i with
    | zero => cases hi
    | succ i => exact ⟨i, q, Nat.le_of_succ_le_succ hi, hq⟩
  · intro h
    refine ⟨hroom.mpr h.room, fun name hname => ?_, fun i q hq => ?_⟩
    · obtain ⟨i, q, hi, hq⟩ := h.known name hname
      exact ⟨i + 1, q, Nat.succ_le_succ hi, hq⟩
    · cases i with
      | zero => exact fun hnone => by cases hnone
      | succ i => exact h.filled i q hq

theorem Fills.cons_cons (p : Parameter) (v : Value) (h : Fills ps positional named vs) :
    Fills (p :: ps) (v :: positional) named (v :: vs) where
  length := congrArg (· + 1) h.length
  value i q hq := by
    cases i with
    | zero => rfl
    | succ i => exact h.value i q hq

/-! ### A parameter that no positional argument reaches -/

theorem fits_cons_nil_iff (hsig : Signature (p :: ps)) :
    Fits (p :: ps) [] named ↔ (named.get? p.name ≠ none → p.kind ≠ .positionalOnly) ∧
      (named.get? p.name = none → p.default.isSome = true) ∧ Fits ps [] (named.erase p.name) := by
  constructor
  · intro h
    refine ⟨fun hget => ?_, h.filled 0 p rfl rfl, Nat.zero_le _, fun name hname => ?_,
      fun i q hq hi hget => ?_⟩
    · obtain ⟨i, q, -, hq, hname, hkind⟩ := h.known p.name (mem_keys_iff.mpr hget)
      -- the name is that of the first parameter: no other one has it
      cases i with
      | zero =>
          cases hq
          exact hkind
      | succ i => exact absurd hname (hsig.name_ne (List.mem_of_getElem? hq))
    · obtain ⟨hname, hne⟩ := mem_keys_erase.mp hname
      obtain ⟨i, q, -, hq, hqname, hkind⟩ := h.known name hname
      cases i with
      | zero =>
          cases hq
          exact absurd hqname.symm hne
      | succ i => exact ⟨i, q, Nat.zero_le _, hq, hqname, hkind⟩
    · rw [get?_erase_of_ne (hsig.name_ne (List.mem_of_getElem? hq))] at hget
      exact h.filled (i + 1) q hq hi hget
  · rintro ⟨hnamed, hdefault, h⟩
    refine ⟨Nat.zero_le _, fun name hname => ?_, fun i q hq hi hget => ?_⟩
    · by_cases hp : name = p.name
      · exact ⟨0, p, Nat.zero_le _, rfl, hp.symm, hnamed (mem_keys_iff.mp (hp ▸ hname))⟩
      · obtain ⟨i, q, -, hq⟩ := h.known name (mem_keys_erase.mpr ⟨hname, hp⟩)
        exact ⟨i + 1, q, Nat.zero_le _, hq⟩
    · cases i with
      | zero =>
          cases hq
          exact hdefault hget
      | succ i =>
          rw [← get?_erase_of_ne (hsig.name_ne (List.mem_of_getElem? hq))] at hget
          exact h.filled i q hq hi hget

theorem Fills.cons_nil (hsig : Signature (p :: ps)) (hv : (named.get? p.name).or p.default = some v)
    (h : Fills ps [] (named.erase p.name) vs) : Fills (p :: ps) [] named (v :: vs) where
  length := congrArg (· + 1) h.length
  value i q hq := by
    cases i with
    | zero =>
        cases hq
        exact hv.symm
    | succ i =>
        have hne := hsig.name_ne (List.mem_of_getElem? hq)
        have hvalue := h.value i q hq
        rwa [given?, get?_erase_of_ne hne] at hvalue

/-! ## Binding -/

/-- Arguments that fit are bound to what the parameters are given, and others to nothing. -/
inductive Binds (ps : List Parameter) (positional : List Value) (named : Assoc String Value) :
    Except Error (List Value) → Prop
  | bound {vs : List Value} (hfits : Fits ps positional named) (hfills : Fills ps positional named vs) :
      Binds ps positional named (.ok vs)
  | refused {e : Error} (hfits : ¬ Fits ps positional named) : Binds ps positional named (.error e)

theorem Binds.map_cons {ps' : List Parameter} {positional' : List Value} {named' : Assoc String Value}
    {result : Except Error (List Value)} (h : Binds ps positional named result)
    (hfits : Fits ps' positional' named' ↔ Fits ps positional named)
    (hfills : ∀ vs, Fills ps positional named vs → Fills ps' positional' named' (v :: vs)) :
    Binds ps' positional' named' (result.map (v :: ·)) := by
  cases h with
  | bound h hvs => exact .bound (hfits.mpr h) (hfills _ hvs)
  | refused h => exact .refused (mt hfits.mp h)

theorem binds_bindNamed (hsig : Signature ps) (named : Assoc String Value) :
    Binds ps [] named (bindNamed ps named) := by
  induction ps generalizing named with
  | nil =>
      cases named with
      | nil => exact .bound ⟨Nat.zero_le _, nofun, nofun⟩ ⟨rfl, nofun⟩
      | cons x named =>
          refine .refused fun h => ?_
          obtain ⟨i, p, -, hp, -⟩ := h.known x.1 List.mem_cons_self
          cases hp
  | cons p ps ih =>
      have hfits : Fits (p :: ps) [] named ↔ _ := fits_cons_nil_iff hsig
      have hrest := ih hsig.tail (named.erase p.name)
      -- the argument of the first parameter is taken out of the named ones before the others are bound
      rw [bindNamed]
      cases hget : named.get? p.name with
      | some v =>
          simp only
          split
          · rename_i hkind
            refine .refused fun h => ?_
            exact (hfits.mp h).1 (by simp [hget]) hkind
          · rename_i hkind
            refine hrest.map_cons ?_ fun vs => Fills.cons_nil hsig (by rw [hget]; rfl)
            simp [hfits, hget, hkind]
      | none =>
          have herase := erase_of_get?_eq_none hget
          rw [herase] at hrest hfits
          cases hdefault : p.default with
          | some v =>
              refine hrest.map_cons ?_ fun vs hvs => ?_
              · simp [hfits, hget, hdefault]
              · exact Fills.cons_nil hsig (by rw [hget, hdefault]; rfl) (herase.symm ▸ hvs)
          | none => exact .refused fun h => by simpa [hdefault] using (hfits.mp h).2.1 hget

theorem binds_bind (hsig : Signature ps) (positional : List Value) (named : Assoc String Value) :
    Binds ps positional named (bind ps positional named) := by
  -- by the positional arguments; the parameters after the last of them are bound by name
  induction positional generalizing ps with
  | nil =>
      have hbind : bind ps [] named = bindNamed ps named := by
        cases ps <;> rfl
      rw [hbind]
      exact binds_bindNamed hsig named
  | cons v positional ih =>
      cases ps with
      | nil => exact .refused fun h => absurd h.room (Nat.not_succ_le_zero _)
      | cons p ps =>
          rw [bind]
          split
          · rename_i hkind
            refine .refused fun h => ?_
            have hroom := h.room
            rw [hsig.countP_of_keywordOnly hkind] at hroom
            exact Nat.not_succ_le_zero _ hroom
          · rename_i hkind
            split
            · rename_i hgiven
              refine .refused fun h => ?_
              have hget := Option.isSome_iff_ne_none.mp hgiven.2
              obtain ⟨i, q, hi, hq, hname, -⟩ := h.known p.name (mem_keys_iff.mpr hget)
              cases i with
              | zero => cases hi
              | succ i => exact hsig.name_ne (List.mem_of_getElem? hq) hname
            · exact (ih hsig.tail).map_cons (fits_cons_cons_iff hkind) fun vs => Fills.cons_cons p v

end Binding

end HttpContract
