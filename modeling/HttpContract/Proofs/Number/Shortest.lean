import HttpContract.Proofs.Number.Nearest
import Mathlib.Data.List.TakeWhile

/-!
# The shortest digits of a number

The digits that are written of a number form a decimal in its rounding interval, so the number is read back from
them. Seventeen digits always suffice: the grid of seventeen digits is narrower than every rounding interval.
-/

namespace HttpContract

/-! ## Whole numbers in digits -/

namespace Binary64

@[simp] theorem natOf_toDigits (n : Nat) : natOf (Nat.toDigits 10 n) = n := Nat.ofDigitChars_ten_toDigits

theorem natOf_append (ds es : List Char) : natOf (ds ++ es) = 10 ^ es.length * natOf ds + natOf es :=
  (Nat.ofDigitChars_append 0).trans Nat.ofDigitChars_eq_ofDigitChars_zero

@[simp] theorem natOf_replicate (n : Nat) : natOf (List.replicate n '0') = 0 :=
  (Nat.ofDigitChars_replicate_zero (b := 10)).trans (by simp)

@[simp] theorem natOf_nil : natOf [] = 0 := rfl

@[simp] theorem natOf_zero_cons (ds : List Char) : natOf ('0' :: ds) = natOf ds := rfl

end Binary64

theorem head?_toDigits_ne_zero {n : Nat} (hn : 0 < n) : (Nat.toDigits 10 n).head? ≠ some '0' := by
  induction n using Nat.strongRecOn with
  | ind n ih =>
      rw [Nat.toDigits_eq_if (by decide)]
      split
      · simpa using hn.ne'
      · rename_i hlarge
        have hne : Nat.toDigits 10 (n / 10) ≠ [] := Nat.toDigits_ne_nil
        rw [List.head?_append_of_ne_nil _ hne]
        exact ih (n / 10) (by omega) (by omega)

namespace Digits

open Binary64 (natOf)

/-- Digits without a zero in front, unless they are those of zero. -/
structure Regular (d : Digits) : Prop where
  ne_nil : d.digits ≠ []
  isDigit : ∀ c ∈ d.digits, c.isDigit = true
  first : d.digits.head? ≠ some '0' ∨ d = ⟨['0'], 1⟩

/-- The number that digits stand for. -/
def value (d : Digits) : ℚ := natOf d.digits * 10 ^ (d.point - d.digits.length)

theorem trimZeros_ne_nil (ds : List Char) : trimZeros ds ≠ [] := by
  unfold trimZeros
  split
  · nofun
  · rename_i hne
    exact hne

/-- The zeros at the end are all that is trimmed. -/
theorem exists_trimZeros_append {ds : List Char} (h : natOf ds ≠ 0) :
    ∃ n, ds = trimZeros ds ++ List.replicate n '0' := by
  have htake : ds.reverse.takeWhile (· == '0') =
      List.replicate (ds.reverse.takeWhile (· == '0')).length '0' :=
    List.eq_replicate_iff.mpr ⟨rfl, fun c hc => by simpa using List.mem_takeWhile_imp hc⟩
  have hsplit : ds = (ds.reverse.dropWhile (· == '0')).reverse ++
      List.replicate (ds.reverse.takeWhile (· == '0')).length '0' := by
    rw [← List.reverse_replicate, ← htake, ← List.reverse_append, List.takeWhile_append_dropWhile,
      List.reverse_reverse]
  refine ⟨(ds.reverse.takeWhile (· == '0')).length, ?_⟩
  unfold trimZeros
  split
  · rename_i hnil
    rw [hnil, List.nil_append] at hsplit
    rw [hsplit] at h
    exact absurd (Binary64.natOf_replicate _) h
  · exact hsplit

theorem exists_ofGrid_append {q : Nat} (hq : 0 < q) (n : Nat) (k : Int) :
    ∃ z, Nat.toDigits 10 q = (ofGrid q n k).digits ++ List.replicate z '0' :=
  exists_trimZeros_append (by simpa using hq.ne')

theorem regular_ofGrid {q : Nat} (hq : 0 < q) (n : Nat) (k : Int) : (ofGrid q n k).Regular := by
  obtain ⟨z, hz⟩ := exists_ofGrid_append hq n k
  have hne : (ofGrid q n k).digits ≠ [] := trimZeros_ne_nil _
  refine ⟨hne, fun c hc => ?_, .inl ?_⟩
  · have hmem : c ∈ Nat.toDigits 10 q := hz ▸ List.mem_append_left _ hc
    exact Nat.isDigit_of_mem_toDigits (by decide) (by decide) hmem
  · have hfirst := head?_toDigits_ne_zero hq
    rwa [hz, List.head?_append_of_ne_nil _ hne] at hfirst

theorem value_ofGrid {q : Nat} (hq : 0 < q) (n : Nat) (k : Int) :
    (ofGrid q n k).value = q * 10 ^ (k - n) := by
  obtain ⟨z, hz⟩ := exists_ofGrid_append hq n k
  have hvalue : q = 10 ^ z * natOf (ofGrid q n k).digits := by
    have h := congrArg natOf hz
    rwa [Binary64.natOf_toDigits, Binary64.natOf_append, List.length_replicate, Binary64.natOf_replicate] at h
  have hlength : ((ofGrid q n k).point - (ofGrid q n k).digits.length : Int) = z + (k - n) := by
    have h := congrArg List.length hz
    rw [List.length_append, List.length_replicate] at h
    have hpoint : (ofGrid q n k).point = k + (Nat.toDigits 10 q).length - n := rfl
    omega
  rw [value, hlength, zpow_add₀ (by norm_num), zpow_natCast]
  conv_rhs => rw [hvalue]
  push_cast
  ring

end Digits

namespace Binary64

variable {m q : Nat} {e k : Int} {n : Nat}

/-! ## The decimal grid -/

/-- The point of the grid lies in the rounding interval. -/
def readsBack (m : Nat) (e k : Int) (n q : Nat) : Bool :=
  let (step, quarter) := measures n k e
  (lowQuarters m e * quarter < q * step && q * step < (4 * m + 2) * quarter) ||
    (m % 2 == 0 && (lowQuarters m e * quarter == q * step || q * step == (4 * m + 2) * quarter))

/-- Both sides of the comparisons are measured in one unit. -/
theorem exists_measure (k e : Int) (n : Nat) : ∃ c : ℚ, 0 < c ∧
    (10 : ℚ) ^ (k - n) * c = (measures n k e).1 ∧ (2 : ℚ) ^ (e - 2) * c = (measures n k e).2 := by
  have hten := zpow_eq_div 10 (k - n)
  have htwo := zpow_eq_div 2 (e - 2)
  rw [neg_sub] at hten htwo
  push_cast at hten htwo
  refine ⟨10 ^ (n - k).toNat * 2 ^ (2 - e).toNat, by positivity, ?_, ?_⟩
  · rw [hten]
    simp only [measures, Nat.pow_eq]
    push_cast
    field_simp
  · rw [htwo]
    simp only [measures, Nat.pow_eq]
    push_cast
    field_simp

theorem readsBack_iff : readsBack m e k n q = true ↔ RoundsTo m e (q * 10 ^ (k - n)) := by
  obtain ⟨c, hc, hstep, hquarter⟩ := exists_measure k e n
  have hlow : low m e * c = (lowQuarters m e * (measures n k e).2 : Nat) := by
    rw [low, mul_assoc, hquarter]
    push_cast
    rfl
  have hhigh : high m e * c = ((4 * m + 2) * (measures n k e).2 : Nat) := by
    rw [high, mul_assoc, hquarter]
    push_cast
    rfl
  have hpoint : (q * 10 ^ (k - n) : ℚ) * c = (q * (measures n k e).1 : Nat) := by
    rw [mul_assoc, hstep]
    push_cast
    rfl
  rw [RoundsTo, ← mul_lt_mul_iff_left₀ hc, ← mul_lt_mul_iff_left₀ hc (b := (q * 10 ^ (k - n) : ℚ)),
    ← mul_left_inj' hc.ne', ← mul_left_inj' hc.ne' (a := (q * 10 ^ (k - n) : ℚ)), hlow, hhigh, hpoint]
  rw [Nat.cast_lt, Nat.cast_lt, Nat.cast_inj, Nat.cast_inj]
  simp [readsBack]

/-- The point of the grid below the number is chosen, or the one above it. -/
theorem gridPoint?_eq (m : Nat) (e k : Int) (n : Nat) :
    ∃ q, q = 4 * m * (measures n k e).2 / (measures n k e).1 ∧ ∃ nearer : Bool, gridPoint? m e k n =
      match readsBack m e k n q, readsBack m e k n (q + 1) with
      | true, true => some (if nearer then q else q + 1)
      | true, false => some q
      | false, true => some (q + 1)
      | false, false => none :=
  ⟨_, rfl, _, rfl⟩

theorem readsBack_of_gridPoint? (h : gridPoint? m e k n = some q) : readsBack m e k n q = true := by
  obtain ⟨below, -, nearer, heq⟩ := gridPoint?_eq m e k n
  rw [heq] at h
  split at h
  · split at h <;> cases h <;> assumption
  · cases h
    assumption
  · cases h
    assumption
  · cases h

/-! ## Seventeen digits -/

theorem low_lt (hm : 0 < m) : low m e < m * 2 ^ e := by
  rw [low, four_mul_two_zpow e, ← mul_assoc]
  gcongr
  have : lowQuarters m e < m * 4 := by
    unfold lowQuarters
    split <;> omega
  exact_mod_cast this

theorem lt_high : m * 2 ^ e < high m e := by
  rw [high_eq]
  gcongr
  linarith

/-- A grid of seventeen digits is narrower than the rounding interval. -/
theorem lt_high_sub_low {step : ℚ} (hm : 0 < m) (hbits : m < 2 ^ 53) (hstep : step * 10 ^ 16 ≤ m * 2 ^ e) :
    step < high m e - low m e := by
  have hquarters : 4 * m < 10 ^ 16 * (4 * m + 2 - lowQuarters m e) ∧ lowQuarters m e ≤ 4 * m + 2 := by
    unfold lowQuarters
    split <;> omega
  have hlt : (4 * m : ℚ) < 10 ^ 16 * (4 * m + 2 - lowQuarters m e) := by
    have h : ((4 * m : Nat) : ℚ) < (10 ^ 16 * (4 * m + 2 - lowQuarters m e) : Nat) :=
      Nat.cast_lt.mpr hquarters.1
    rw [Nat.cast_mul, Nat.cast_mul, Nat.cast_sub hquarters.2] at h
    push_cast at h
    exact h
  have hscaled : step * 10 ^ 16 < (high m e - low m e) * 10 ^ 16 := by
    calc step * 10 ^ 16 ≤ m * 2 ^ e := hstep
      _ = 4 * m * 2 ^ (e - 2) := by
          rw [four_mul_two_zpow e]
          ring
      _ < 10 ^ 16 * (4 * m + 2 - lowQuarters m e) * 2 ^ (e - 2) := by gcongr
      _ = (high m e - low m e) * 10 ^ 16 := by
          rw [high, low]
          push_cast
          ring
  exact lt_of_mul_lt_mul_right hscaled (by positivity)

theorem exists_gridPoint? (hm : 0 < m) (hgrid : (10 : ℚ) ^ (k - n) < high m e - low m e) :
    ∃ q, gridPoint? m e k n = some q := by
  obtain ⟨c, hc, hstep, hquarter⟩ := exists_measure k e n
  obtain ⟨q, hq, nearer, heq⟩ := gridPoint?_eq m e k n
  have hpos : 0 < (measures n k e).1 :=
    Nat.mul_pos (Nat.pow_pos (by decide)) (Nat.pow_pos (by decide))
  have hvalue : m * 2 ^ e * c = (4 * m * (measures n k e).2 : Nat) := by
    rw [four_mul_two_zpow e, mul_assoc, mul_assoc, hquarter]
    push_cast
    ring
  have hbelow : (q : ℚ) * 10 ^ (k - n) ≤ m * 2 ^ e := by
    rw [← mul_le_mul_iff_left₀ hc, mul_assoc _ _ c, hstep, hvalue, hq]
    exact_mod_cast Nat.div_mul_le_self _ _
  have habove : (m : ℚ) * 2 ^ e < (q + 1 : Nat) * 10 ^ (k - n) := by
    rw [← mul_lt_mul_iff_left₀ hc, hvalue, mul_assoc _ _ c, hstep, hq]
    exact_mod_cast Nat.lt_mul_of_div_lt (Nat.lt_succ_self _) hpos
  have hlow := low_lt (e := e) hm
  have hhigh := lt_high (m := m) (e := e)
  -- the gap between the two neighbours does not hold the whole interval
  have hsome : readsBack m e k n q = true ∨ readsBack m e k n (q + 1) = true := by
    by_cases hin : low m e < q * 10 ^ (k - n)
    · exact .inl (readsBack_iff.mpr (.inl ⟨hin, hbelow.trans_lt hhigh⟩))
    · refine .inr (readsBack_iff.mpr (.inl ⟨hlow.trans habove, ?_⟩))
      push_cast
      linarith
  rw [heq]
  split
  · exact ⟨_, rfl⟩
  · exact ⟨_, rfl⟩
  · exact ⟨_, rfl⟩
  · simp_all

/-! ## The magnitude -/

theorem ten_zpow_magnitude_le {num den : Nat} (hnum : 0 < num) (hden : 0 < den) :
    (10 : ℚ) ^ (magnitude num den - 1) ≤ num / den := by
  have hpos : (0 : ℚ) < den := by exact_mod_cast hden
  set guess : Int := ((Nat.toDigits 10 num).length : Int) - (Nat.toDigits 10 den).length with hguess
  have hscaled : num * 10 ^ (-guess).toNat < den * 10 ^ guess.toNat ↔ (num : ℚ) / den < 10 ^ guess := by
    have hten := zpow_eq_div 10 guess
    push_cast at hten
    rw [hten, div_lt_div_iff₀ hpos (by positivity), mul_comm ((10 : ℚ) ^ guess.toNat)]
    exact_mod_cast Iff.rfl
  have hunfold : magnitude num den =
      if num * 10 ^ (-guess).toNat < den * 10 ^ guess.toNat then guess else guess + 1 := rfl
  rw [hunfold]
  split
  · have hle := (ten_zpow_bounds hnum 0).1
    have hlt := (ten_zpow_bounds hden 0).2
    rw [zpow_zero, mul_one, add_zero] at hle hlt
    rw [le_div_iff₀ hpos]
    calc (10 : ℚ) ^ (guess - 1) * den ≤ 10 ^ (guess - 1) * 10 ^ ((Nat.toDigits 10 den).length : Int) := by
          gcongr
      _ = 10 ^ (((Nat.toDigits 10 num).length : Int) - 1) := by
          rw [← zpow_add₀ (by norm_num)]
          congr 1
          omega
      _ ≤ num := hle
  · rename_i h
    rw [add_sub_cancel_right]
    exact not_lt.mp (mt hscaled.mpr h)

theorem fraction_div (m : Nat) (e : Int) : ((fraction m e).1 : ℚ) / (fraction m e).2 = m * 2 ^ e := by
  have h := zpow_eq_div 2 e
  simp only [fraction, Nat.pow_eq]
  push_cast at h ⊢
  rw [h, mul_div_assoc]

/-! ## The shortest digits -/

/-- Some point of a grid is found, at the latest with seventeen digits. -/
theorem exists_shortest_eq (hm : 0 < m) (hbits : m < 2 ^ 53) :
    ∃ q n k, shortest m e = Digits.ofGrid q n k ∧ RoundsTo m e (q * 10 ^ (k - n)) := by
  set k := magnitude (fraction m e).1 (fraction m e).2 with hk
  have hle : (10 : ℚ) ^ (k - 1) ≤ m * 2 ^ e := by
    rw [← fraction_div]
    exact ten_zpow_magnitude_le (Nat.mul_pos hm (Nat.pow_pos (by decide))) (Nat.pow_pos (by decide))
  have hgrid : (10 : ℚ) ^ (k - (17 : Nat)) < high m e - low m e := by
    refine lt_high_sub_low hm hbits (le_trans (le_of_eq ?_) hle)
    rw [← zpow_natCast, ← zpow_add₀ (by norm_num)]
    congr 1
    push_cast
    ring
  obtain ⟨q, hq⟩ := exists_gridPoint? hm hgrid
  -- a grid with fewer digits may serve as well, and is then found first
  have hsome : ((List.range 17).findSome? fun i =>
      (gridPoint? m e k (i + 1)).map fun q => Digits.ofGrid q (i + 1) k).isSome := by
    rw [List.findSome?_isSome_iff]
    exact ⟨16, by simp, by simp [hq]⟩
  obtain ⟨d, hd⟩ := Option.isSome_iff_exists.mp hsome
  have hshortest : shortest m e = d := by
    unfold shortest
    rw [if_neg hm.ne']
    simp only [← hk, hd]
    rfl
  obtain ⟨i, -, hi⟩ := List.exists_of_findSome?_eq_some hd
  obtain ⟨p, hp, rfl⟩ := Option.map_eq_some_iff.mp hi
  exact ⟨p, i + 1, k, hshortest, readsBack_iff.mp (readsBack_of_gridPoint? hp)⟩

theorem RoundsTo.pos (hm : 0 < m) {v : ℚ} (h : RoundsTo m e v) : 0 < v :=
  (two_zpow_pos _).trans_le ((two_zpow_le_low hm).trans h.low_le)

/-- The shortest digits have no zero in front, and lie in the rounding interval of the number. -/
theorem shortest_spec (hbits : m < 2 ^ 53) :
    (shortest m e).Regular ∧ RoundsTo m e (shortest m e).value := by
  rcases Nat.eq_zero_or_pos m with rfl | hm
  · refine ⟨⟨by simp [shortest], by simp [shortest], .inr rfl⟩, .inr ⟨rfl, .inl ?_⟩⟩
    simp [shortest, Digits.value, low, lowQuarters, natOf]
  · obtain ⟨q, n, k, hshortest, h⟩ := exists_shortest_eq (e := e) hm hbits
    have hq : 0 < q := by
      have hpos := h.pos hm
      rw [mul_pos_iff_of_pos_right (by positivity)] at hpos
      exact_mod_cast hpos
    rw [hshortest, Digits.value_ofGrid hq]
    exact ⟨Digits.regular_ofGrid hq n k, h⟩

end Binary64

end HttpContract
