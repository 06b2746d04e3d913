import HttpContract.Number.Text
import Mathlib.Algebra.Order.Field.Power
import Mathlib.Tactic.FieldSimp
import Mathlib.Tactic.Linarith
import Mathlib.Tactic.NormNum
import Mathlib.Tactic.Positivity
import Mathlib.Tactic.Ring

/-!
# Reading fractions and decimals

A fraction is read as the number whose rounding interval it lies in. The interval of `m · 2^e` ends half-way to
the next number on either side, and holds its ends if `m` is even. `Binary64.ofFraction_eq` and
`Binary64.ofDecimal_eq` say that reading finds that number.
-/

namespace HttpContract

/-! ## Rounding a quotient -/

theorem roundDiv_eq {num den q : Nat} (hden : 0 < den) (hlow : 2 * den * q ≤ 2 * num + den)
    (hhigh : 2 * num ≤ 2 * den * q + den)
    (htie : 2 * den * q = 2 * num + den ∨ 2 * num = 2 * den * q + den → q % 2 = 0) :
    roundDiv num den = q := by
  have hdiv := Nat.div_add_mod num den
  have hmod := Nat.mod_lt num hden
  set k := num / den with hk
  set r := num % den with hr
  have hstep : ∀ a b : Nat, a < b → den * a + den ≤ den * b := fun a b hab => by
    calc den * a + den = den * (a + 1) := by ring
      _ ≤ den * b := Nat.mul_le_mul_left _ hab
  -- the number is the whole part of the quotient or one more, and which of them the remainder tells
  rcases lt_trichotomy q k with hlt | heq | hgt
  · have := hstep q k hlt
    nlinarith
  · subst heq
    rw [roundDiv, ← hk, ← hr]
    split
    · rfl
    · rename_i hnot
      rw [not_or] at hnot
      have h1 : 2 * r = den := by nlinarith
      have := htie (.inr (by nlinarith))
      exact absurd ⟨h1, this⟩ hnot.2
  · have := hstep k q hgt
    have hqk : q = k + 1 := by
      by_contra hne
      have := hstep (k + 1) q (by omega)
      nlinarith
    subst hqk
    rw [roundDiv, ← hk, ← hr]
    split
    · rename_i h
      rcases h with h | ⟨h, heven⟩
      · nlinarith
      · have := htie (.inl (by nlinarith))
        omega
    · rfl

/-- A quotient is rounded to the whole number that lies at most a half away, and is even if it lies just a
half away. -/
theorem roundDiv_eq_of_near {num den q : Nat} (hden : 0 < den) (hlow : (q : ℚ) - 1 / 2 ≤ num / den)
    (hhigh : (num : ℚ) / den ≤ q + 1 / 2)
    (htie : (num : ℚ) / den = q - 1 / 2 ∨ (num : ℚ) / den = q + 1 / 2 → q % 2 = 0) :
    roundDiv num den = q := by
  have hpos : (0 : ℚ) < den := by exact_mod_cast hden
  rw [le_div_iff₀ hpos] at hlow
  rw [div_le_iff₀ hpos] at hhigh
  rw [div_eq_iff hpos.ne', div_eq_iff hpos.ne'] at htie
  refine roundDiv_eq hden ?_ ?_ fun h => htie (h.imp (fun h => ?_) fun h => ?_)
  · have : (2 * den * q : ℚ) ≤ 2 * num + den := by linarith
    exact_mod_cast this
  · have : (2 * num : ℚ) ≤ 2 * den * q + den := by linarith
    exact_mod_cast this
  · have : (2 * den * q : ℚ) = 2 * num + den := by exact_mod_cast h
    linarith
  · have : (2 * num : ℚ) = 2 * den * q + den := by exact_mod_cast h
    linarith

theorem zpow_eq_div (b : Nat) (x : Int) :
    (b : ℚ) ^ x = (b ^ x.toNat : Nat) / (b ^ (-x).toNat : Nat) := by
  obtain ⟨n, rfl | rfl⟩ := x.eq_nat_or_neg
  · simp
  · simp [zpow_neg]

namespace Binary64

variable {negative : Bool} {m num den : Nat} {e x : Int} {v : ℚ}

/-! ## Numbers -/

/-- The significand and the exponent of a number: the first bit of the significand is not zero, unless the
exponent is the smallest. -/
structure Proper (m : Nat) (e : Int) : Prop where
  significand : m < 2 ^ 53
  least : -1074 ≤ e
  greatest : e ≤ 971
  normal : 2 ^ 52 ≤ m ∨ e = -1074

/-- A number in the form in which all numbers are read. -/
def IsNumber : Binary64 → Prop
  | finite _ m e => Proper m e
  | _ => True

def IsFinite : Binary64 → Prop
  | finite .. => True
  | _ => False

/-- The half-way point below `m · 2^e`, in quarters of `2^e`. Below a power of two numbers are closer. -/
def lowQuarters (m : Nat) (e : Int) : Nat := if m = 2 ^ 52 ∧ e ≠ -1074 then 4 * m - 1 else 4 * m - 2

def low (m : Nat) (e : Int) : ℚ := lowQuarters m e * 2 ^ (e - 2)

def high (m : Nat) (e : Int) : ℚ := (4 * m + 2 : Nat) * 2 ^ (e - 2)

/-- The value lies in the rounding interval of `m · 2^e`. -/
def RoundsTo (m : Nat) (e : Int) (v : ℚ) : Prop :=
  low m e < v ∧ v < high m e ∨ m % 2 = 0 ∧ (low m e = v ∨ v = high m e)

/-! ## Powers of two -/

theorem two_zpow_pos (e : Int) : (0 : ℚ) < 2 ^ e := by positivity

theorem two_zpow_add (e : Int) (n : Nat) : (2 : ℚ) ^ (e + n) = 2 ^ e * 2 ^ n := by
  rw [zpow_add₀ two_ne_zero, zpow_natCast]

/-- Exponents compare as the powers do. -/
theorem lt_add_of_mul_lt {c : ℚ} {n : Nat} (hc : 0 < c) (h : c * 2 ^ e < c * 2 ^ n * 2 ^ x) : e < x + n := by
  rw [mul_assoc, mul_lt_mul_iff_right₀ hc, mul_comm, ← two_zpow_add] at h
  exact (zpow_lt_zpow_iff_right₀ one_lt_two).mp h

/-! ## The exponent of a fraction -/

theorem scaled_pos (num : Nat) (hden : 0 < den) (e : Int) : 0 < (scaled num den e).2 :=
  Nat.mul_pos hden (Nat.pow_pos two_pos)

theorem scaled_div (hden : 0 < den) (e : Int) :
    ((scaled num den e).1 : ℚ) / (scaled num den e).2 = num / den / 2 ^ e := by
  have h := zpow_eq_div 2 e
  have hpos : (0 : ℚ) < den := by exact_mod_cast hden
  simp only [scaled, Nat.pow_eq]
  push_cast at h ⊢
  rw [h]
  field_simp

theorem two_pow_log2_le (h : 0 < num) : (2 : ℚ) ^ (num.log2 : Int) ≤ num := by
  rw [zpow_natCast]
  exact_mod_cast Nat.log2_self_le h.ne'

theorem lt_two_pow_log2 (num : Nat) : (num : ℚ) < 2 ^ (num.log2 + 1 : Int) := by
  have h : num < 2 ^ (num.log2 + 1) := Nat.lt_log2_self
  exact_mod_cast h

/-- The lengths of a numerator and of a denominator leave two exponents open. -/
theorem guess_bounds (hnum : 0 < num) (hden : 0 < den) {guess : Int}
    (hguess : guess = (num.log2 : Int) - (den.log2 : Int) - 52) :
    2 ^ 51 * 2 ^ guess < (num : ℚ) / den ∧ (num : ℚ) / den < 2 ^ 53 * 2 ^ guess := by
  have hpos : (0 : ℚ) < den := by exact_mod_cast hden
  constructor
  · rw [lt_div_iff₀ hpos]
    calc 2 ^ 51 * 2 ^ guess * (den : ℚ) < 2 ^ 51 * 2 ^ guess * 2 ^ (den.log2 + 1 : Int) := by
          gcongr
          exact lt_two_pow_log2 den
      _ = 2 ^ (num.log2 : Int) := by
          rw [← zpow_natCast, ← zpow_add₀ two_ne_zero, ← zpow_add₀ two_ne_zero]
          congr 1
          omega
      _ ≤ num := two_pow_log2_le hnum
  · rw [div_lt_iff₀ hpos]
    calc (num : ℚ) < 2 ^ (num.log2 + 1 : Int) := lt_two_pow_log2 num
      _ = 2 ^ 53 * 2 ^ guess * 2 ^ (den.log2 : Int) := by
          rw [← zpow_natCast, ← zpow_add₀ two_ne_zero, ← zpow_add₀ two_ne_zero]
          congr 1
          omega
      _ ≤ 2 ^ 53 * 2 ^ guess * den := by
          gcongr
          exact two_pow_log2_le hden

theorem scaled_lt_iff (hden : 0 < den) (n : Nat) (e : Int) :
    (scaled num den e).1 < n * (scaled num den e).2 ↔ (num : ℚ) / den < n * 2 ^ e := by
  have hscaled : (0 : ℚ) < (scaled num den e).2 := by exact_mod_cast scaled_pos num hden e
  rw [← div_lt_iff₀ (two_zpow_pos e), ← scaled_div hden, div_lt_iff₀ hscaled]
  exact_mod_cast Iff.rfl

theorem two_zpow_eq_mul_two (e : Int) : (2 : ℚ) ^ e = 2 ^ (e - 1) * 2 := by
  rw [← zpow_add_one₀ two_ne_zero, sub_add_cancel]

/-- The significand takes 53 bits at the exponent, or fewer at the smallest. -/
theorem exponentOf_spec (hnum : 0 < num) (hden : 0 < den) :
    -1074 ≤ exponentOf num den ∧ (num : ℚ) / den < 2 ^ 53 * 2 ^ exponentOf num den ∧
      (exponentOf num den = -1074 ∨ 2 ^ 52 * 2 ^ exponentOf num den ≤ (num : ℚ) / den) := by
  set guess : Int := (num.log2 : Int) - (den.log2 : Int) - 52 with hguess
  obtain ⟨hlow, hhigh⟩ := guess_bounds hnum hden hguess
  have hfits : (scaled num den guess).1 / (scaled num den guess).2 < 2 ^ 52 ↔
      (num : ℚ) / den < 2 ^ 52 * 2 ^ guess := by
    rw [Nat.div_lt_iff_lt_mul (scaled_pos num hden guess), scaled_lt_iff hden]
    norm_num
  have hunfold : exponentOf num den =
      max (if (scaled num den guess).1 / (scaled num den guess).2 < 2 ^ 52 then guess - 1 else guess)
        (-1074) := rfl
  -- the guess is right or one too large
  obtain ⟨y, hy, hylow, hyhigh⟩ : ∃ y, exponentOf num den = max y (-1074) ∧
      2 ^ 52 * 2 ^ y ≤ (num : ℚ) / den ∧ (num : ℚ) / den < 2 ^ 53 * 2 ^ y := by
    by_cases h : (scaled num den guess).1 / (scaled num den guess).2 < 2 ^ 52
    · refine ⟨guess - 1, by rw [hunfold, if_pos h], ?_, ?_⟩
      · rw [two_zpow_eq_mul_two] at hlow
        linarith
      · rw [hfits, two_zpow_eq_mul_two] at h
        linarith
    · exact ⟨guess, by rw [hunfold, if_neg h], not_lt.mp (mt hfits.mpr h), hhigh⟩
  refine ⟨hy ▸ le_max_right _ _, hyhigh.trans_le ?_, ?_⟩
  · have : (2 : ℚ) ^ y ≤ 2 ^ exponentOf num den :=
      zpow_le_zpow_right₀ one_le_two (hy ▸ le_max_left _ _)
    gcongr
  · rcases le_total y (-1074) with h | h
    · exact .inl (hy.trans (max_eq_right h))
    · rw [hy, max_eq_left h]
      exact .inr hylow

/-! ## Rounding intervals -/

theorem four_mul_two_zpow (e : Int) : (2 : ℚ) ^ e = 4 * 2 ^ (e - 2) := by
  have h := two_zpow_add (e - 2) 2
  rw [Nat.cast_two, sub_add_cancel] at h
  rw [h]
  ring

theorem RoundsTo.low_le (h : RoundsTo m e v) : low m e ≤ v := by
  obtain ⟨h, -⟩ | ⟨-, h | rfl⟩ := h
  · exact h.le
  · exact h.le
  · unfold low high lowQuarters
    gcongr
    split <;> omega

theorem RoundsTo.le_high (h : RoundsTo m e v) : v ≤ high m e := by
  obtain ⟨-, h⟩ | ⟨-, rfl | h⟩ := h
  · exact h.le
  · unfold low high lowQuarters
    gcongr
    split <;> omega
  · exact h.le

theorem RoundsTo.even (h : RoundsTo m e v) (hv : v = low m e ∨ v = high m e) : m % 2 = 0 := by
  obtain ⟨hlow, hhigh⟩ | ⟨h, -⟩ := h
  · obtain rfl | rfl := hv
    · exact absurd hlow (lt_irrefl _)
    · exact absurd hhigh (lt_irrefl _)
  · exact h

theorem high_eq (m : Nat) (e : Int) : high m e = (m + 1 / 2) * 2 ^ e := by
  rw [high, four_mul_two_zpow e]
  push_cast
  ring

/-- Above a power of two the interval begins half a unit below the number. -/
theorem low_eq (hm : 0 < m) (hpower : ¬ (m = 2 ^ 52 ∧ e ≠ -1074)) : low m e = (m - 1 / 2) * 2 ^ e := by
  rw [low, lowQuarters, if_neg hpower, four_mul_two_zpow e, Nat.cast_sub (by omega)]
  push_cast
  ring

theorem low_power (he : e ≠ -1074) : low (2 ^ 52) e = (2 ^ 52 - 1 / 4) * 2 ^ e := by
  rw [low, lowQuarters, if_pos ⟨rfl, he⟩, four_mul_two_zpow e]
  norm_num
  ring

theorem low_nonneg (m : Nat) (e : Int) : 0 ≤ low m e := by
  unfold low
  positivity

/-- Only zero has values beside it that are smaller than every positive number. -/
theorem two_zpow_le_low (hm : 0 < m) : 2 ^ (e - 1) ≤ low m e := by
  have h : (2 : ℚ) ≤ lowQuarters m e := by
    have : 2 ≤ lowQuarters m e := by
      unfold lowQuarters
      split <;> omega
    exact_mod_cast this
  calc (2 : ℚ) ^ (e - 1) = 2 * 2 ^ (e - 2) := by
        rw [mul_comm, ← zpow_add_one₀ two_ne_zero]
        congr 1
        ring
    _ ≤ low m e := by
        unfold low
        gcongr

/-! ## Reading a fraction -/

theorem ofFraction_of_exponent (hnum : 0 < num) (hx : exponentOf num den = x)
    (hround : roundDiv (scaled num den x).1 (scaled num den x).2 = m) :
    ofFraction negative num den =
      if m = 2 ^ 53 then (if 971 < x + 1 then infinity negative else finite negative (2 ^ 52) (x + 1))
      else if 971 < x then infinity negative else finite negative m x := by
  subst hx hround
  unfold ofFraction
  rw [if_neg hnum.ne']
  simp only [Nat.pow_eq]
  split <;> rfl

/-- At the exponent of the number the fraction is rounded to its significand. -/
theorem roundDiv_at_exponent (hden : 0 < den) (h : RoundsTo m e ((num : ℚ) / den))
    (hlarge : e = -1074 ∨ 2 ^ 52 * 2 ^ e ≤ (num : ℚ) / den) :
    roundDiv (scaled num den e).1 (scaled num den e).2 = m := by
  have hpow := two_zpow_pos e
  have hlow := h.low_le
  have hhigh := h.le_high
  rw [high_eq] at hhigh
  refine roundDiv_eq_of_near (scaled_pos num hden e) ?_ ?_ fun htie => ?_
  · -- below zero there is nothing, and below a power of two the fraction is not large enough
    rw [scaled_div hden, le_div_iff₀ hpow]
    rcases Nat.eq_zero_or_pos m with rfl | hm
    · have := (low_nonneg 0 e).trans hlow
      push_cast
      linarith
    · by_cases hpower : m = 2 ^ 52 ∧ e ≠ -1074
      · have := hlarge.resolve_left hpower.2
        rw [hpower.1]
        push_cast
        linarith
      · rwa [← low_eq hm hpower]
  · rw [scaled_div hden, div_le_iff₀ hpow]
    exact hhigh
  · rw [scaled_div hden, div_eq_iff hpow.ne', div_eq_iff hpow.ne', ← high_eq] at htie
    rcases Nat.eq_zero_or_pos m with rfl | hm
    · rfl
    · by_cases hpower : m = 2 ^ 52 ∧ e ≠ -1074
      · rw [hpower.1]
        norm_num
      · rw [← low_eq hm hpower] at htie
        exact h.even htie

/-- Just below a power of two the fraction has a smaller exponent, and is rounded up to the power. -/
theorem roundDiv_below_power (hden : 0 < den) (he : e ≠ -1074) (h : RoundsTo (2 ^ 52) e ((num : ℚ) / den))
    (hsmall : (num : ℚ) / den < 2 ^ 52 * 2 ^ e) :
    roundDiv (scaled num den (e - 1)).1 (scaled num den (e - 1)).2 = 2 ^ 53 := by
  have hpow := two_zpow_pos (e - 1)
  have hlow := h.low_le
  rw [low_power he, two_zpow_eq_mul_two] at hlow
  rw [two_zpow_eq_mul_two] at hsmall
  refine roundDiv_eq_of_near (scaled_pos num hden _) ?_ ?_ fun _ => by norm_num
  · rw [scaled_div hden, le_div_iff₀ hpow]
    push_cast
    linarith
  · rw [scaled_div hden, div_le_iff₀ hpow]
    push_cast
    linarith

theorem RoundsTo.normal (h : RoundsTo m e v) (hm : 2 ^ 52 ≤ m) (he : e ≠ -1074) :
    (2 ^ 52 - 1 / 4) * 2 ^ e ≤ v ∧ (v < 2 ^ 52 * 2 ^ e → m = 2 ^ 52) := by
  have hpow := two_zpow_pos e
  have hlow := h.low_le
  by_cases hpower : m = 2 ^ 52
  · subst hpower
    exact ⟨(low_power he).symm.trans_le hlow, fun _ => rfl⟩
  · have hmore : (2 ^ 52 + 1 : ℚ) ≤ m := by
      have : 2 ^ 52 + 1 ≤ m := by omega
      exact_mod_cast this
    rw [low_eq (by omega) fun h => hpower h.1] at hlow
    have : (2 ^ 52 + 1 / 2) * 2 ^ e ≤ v := by
      refine le_trans ?_ hlow
      gcongr
      linarith
    exact ⟨by linarith, fun hsmall => by linarith⟩

theorem lt_of_significand (hbits : m < 2 ^ 53) (h : RoundsTo m e v) : v < 2 ^ 53 * 2 ^ e := by
  have hmax : (m : ℚ) + 1 ≤ 2 ^ 53 := by exact_mod_cast hbits
  calc v ≤ (m + 1 / 2) * 2 ^ e := high_eq m e ▸ h.le_high
    _ < 2 ^ 53 * 2 ^ e := by
        gcongr
        linarith

theorem exponentOf_le (hproper : Proper m e) (hnum : 0 < num) (hden : 0 < den)
    (h : RoundsTo m e ((num : ℚ) / den)) : exponentOf num den ≤ e := by
  obtain ⟨-, -, hleast | habove⟩ := exponentOf_spec hnum hden
  · exact hleast.trans_le hproper.least
  · have hlt : (2 : ℚ) ^ 52 * 2 ^ exponentOf num den < 2 ^ 52 * 2 ^ 1 * 2 ^ e :=
      habove.trans_lt ((lt_of_significand hproper.significand h).trans_eq (by ring))
    have := lt_add_of_mul_lt (by positivity) hlt
    omega

/-- From the number's own power of two on, the fraction has the exponent of the number. -/
theorem exponentOf_eq (hproper : Proper m e) (hnum : 0 < num) (hden : 0 < den)
    (h : RoundsTo m e ((num : ℚ) / den)) (hlarge : e = -1074 ∨ 2 ^ 52 * 2 ^ e ≤ (num : ℚ) / den) :
    exponentOf num den = e := by
  obtain ⟨hleast, hbelow, -⟩ := exponentOf_spec hnum hden
  have hle := exponentOf_le hproper hnum hden h
  rcases hlarge with he | hlarge
  · omega
  · have hlt : (2 : ℚ) ^ 52 * 2 ^ e < 2 ^ 52 * 2 ^ 1 * 2 ^ exponentOf num den :=
      hlarge.trans_lt (hbelow.trans_eq (by ring))
    have := lt_add_of_mul_lt (by positivity) hlt
    omega

/-- Just below a power of two the exponent of the fraction is one less. -/
theorem exponentOf_below_power (hnum : 0 < num) (hden : 0 < den) (he : e ≠ -1074)
    (hnear : (2 ^ 52 - 1 / 4) * 2 ^ e ≤ (num : ℚ) / den) (hsmall : (num : ℚ) / den < 2 ^ 52 * 2 ^ e)
    (hle : exponentOf num den ≤ e) : exponentOf num den = e - 1 := by
  obtain ⟨-, hbelow, habove⟩ := exponentOf_spec hnum hden
  have hlt : (2 : ℚ) ^ 51 * 2 ^ e < 2 ^ 51 * 2 ^ 2 * 2 ^ exponentOf num den := by
    have hpow := two_zpow_pos e
    linarith
  have hlower := lt_add_of_mul_lt (by positivity) hlt
  have hne : exponentOf num den ≠ e := fun heq => by
    rw [heq] at habove
    exact (habove.resolve_left he).not_gt hsmall
  omega

/-- A fraction in the rounding interval of a number is read as that number. -/
theorem ofFraction_eq (hproper : Proper m e) (hnum : 0 < num) (hden : 0 < den)
    (h : RoundsTo m e ((num : ℚ) / den)) : ofFraction negative num den = finite negative m e := by
  have hgreatest : ¬ 971 < e := hproper.greatest.not_gt
  by_cases hlarge : e = -1074 ∨ 2 ^ 52 * 2 ^ e ≤ (num : ℚ) / den
  · have hx := exponentOf_eq hproper hnum hden h hlarge
    rw [ofFraction_of_exponent hnum hx (roundDiv_at_exponent hden h hlarge), if_neg hproper.significand.ne,
      if_neg hgreatest]
  · rw [not_or, not_le] at hlarge
    obtain ⟨he, hsmall⟩ := hlarge
    obtain ⟨hnear, hpower⟩ := h.normal (hproper.normal.resolve_right he) he
    obtain rfl := hpower hsmall
    have hx := exponentOf_below_power hnum hden he hnear hsmall (exponentOf_le hproper hnum hden h)
    rw [ofFraction_of_exponent hnum hx (roundDiv_below_power hden he h hsmall), if_pos rfl, sub_add_cancel,
      if_neg hgreatest]

/-! ## Reading a decimal -/

theorem ten_zpow_eq (m : Nat) (k : Int) :
    (m : ℚ) * 10 ^ k = (m * Nat.pow 10 k.toNat : Nat) / (Nat.pow 10 (-k).toNat : Nat) := by
  have h := zpow_eq_div 10 k
  push_cast [Nat.pow_eq] at h ⊢
  rw [h, mul_div_assoc]

theorem lt_ten_pow_length (m : Nat) : m < 10 ^ (Nat.toDigits 10 m).length :=
  (Nat.length_toDigits_le_iff (by decide) Nat.length_toDigits_pos).mp le_rfl

theorem ten_pow_length_le (hm : 0 < m) : 10 ^ ((Nat.toDigits 10 m).length - 1) ≤ m := by
  have hpos : 0 < (Nat.toDigits 10 m).length := Nat.length_toDigits_pos
  rcases Nat.eq_zero_or_pos ((Nat.toDigits 10 m).length - 1) with h | h
  · rw [h]
    exact hm
  · have := mt (Nat.length_toDigits_le_iff (n := m) (b := 10) (by decide) h).mpr (by omega)
    omega

/-- A decimal lies between the powers of ten that its digits name. -/
theorem ten_zpow_bounds {digits : Nat} (hdigits : 0 < digits) (k : Int) :
    (10 : ℚ) ^ ((Nat.toDigits 10 digits).length + k - 1) ≤ digits * 10 ^ k ∧
      (digits : ℚ) * 10 ^ k < 10 ^ ((Nat.toDigits 10 digits).length + k) := by
  have hpos : 0 < (Nat.toDigits 10 digits).length := Nat.length_toDigits_pos
  constructor
  · have hle : (10 : ℚ) ^ ((Nat.toDigits 10 digits).length - 1) ≤ digits := by
      exact_mod_cast ten_pow_length_le hdigits
    calc (10 : ℚ) ^ ((Nat.toDigits 10 digits).length + k - 1)
        = 10 ^ ((Nat.toDigits 10 digits).length - 1) * 10 ^ k := by
          rw [← zpow_natCast, ← zpow_add₀ (by norm_num)]
          congr 1
          omega
      _ ≤ digits * 10 ^ k := by gcongr
  · have hlt : (digits : ℚ) < 10 ^ (Nat.toDigits 10 digits).length := by
      exact_mod_cast lt_ten_pow_length digits
    calc (digits : ℚ) * 10 ^ k < 10 ^ (Nat.toDigits 10 digits).length * 10 ^ k := by gcongr
      _ = 10 ^ ((Nat.toDigits 10 digits).length + k) := by
          rw [← zpow_natCast, ← zpow_add₀ (by norm_num)]

theorem two_pow_le_ten_pow {n k : Nat} (h : n ≤ 3 * k) : (2 : ℚ) ^ n ≤ 10 ^ k := by
  calc (2 : ℚ) ^ n ≤ 2 ^ (3 * k) := pow_le_pow_right₀ one_le_two h
    _ = 8 ^ k := by
        rw [pow_mul]
        norm_num
    _ ≤ 10 ^ k := by
        gcongr
        norm_num

/-- Decimals below this power of ten are below half the smallest positive number. -/
theorem least_bound : (10 : ℚ) ^ (-400 : Int) ≤ 2 ^ (-1075 : Int) := by
  rw [zpow_neg, zpow_neg, zpow_ofNat, zpow_ofNat]
  exact inv_anti₀ (by positivity) (two_pow_le_ten_pow (by decide))

/-- Decimals from this power of ten on are beyond the largest number. -/
theorem greatest_bound : (2 : ℚ) ^ 1024 ≤ 10 ^ (400 : Int) := by
  rw [zpow_ofNat]
  exact two_pow_le_ten_pow (by decide)

theorem eq_zero_of_small (hproper : Proper m e) (h : RoundsTo m e v) (hv : v < 2 ^ (-1075 : Int)) :
    m = 0 ∧ e = -1074 := by
  have hm : m = 0 := by
    by_contra hm
    have hle : (2 : ℚ) ^ (-1075 : Int) ≤ v := by
      calc (2 : ℚ) ^ (-1075 : Int) ≤ 2 ^ (e - 1) :=
            zpow_le_zpow_right₀ one_le_two (by have := hproper.least; omega)
        _ ≤ low m e := two_zpow_le_low (Nat.pos_of_ne_zero hm)
        _ ≤ v := h.low_le
    exact hle.not_gt hv
  exact ⟨hm, hproper.normal.resolve_left (by omega)⟩

theorem lt_two_pow (hproper : Proper m e) (h : RoundsTo m e v) : v < 2 ^ 1024 := by
  calc v < 2 ^ 53 * 2 ^ e := lt_of_significand hproper.significand h
    _ ≤ 2 ^ 53 * 2 ^ (971 : Int) := by
        gcongr
        · norm_num
        · exact hproper.greatest
    _ = 2 ^ 1024 := by rw [← zpow_natCast, ← zpow_natCast, ← zpow_add₀ two_ne_zero]; rfl

/-- A decimal in the rounding interval of a number is read as that number. -/
theorem ofDecimal_eq (hproper : Proper m e) {digits : Nat} {k : Int} (h : RoundsTo m e (digits * 10 ^ k)) :
    ofDecimal negative digits k = finite negative m e := by
  rcases Nat.eq_zero_or_pos digits with rfl | hdigits
  · obtain ⟨rfl, rfl⟩ := eq_zero_of_small hproper h (by simp)
    rfl
  obtain ⟨hlow, hhigh⟩ := ten_zpow_bounds hdigits k
  simp only [ofDecimal]
  generalize ((Nat.toDigits 10 digits).length : Int) = size at hlow hhigh ⊢
  split
  · rename_i hsmall
    have hlt : (digits : ℚ) * 10 ^ k < 2 ^ (-1075 : Int) := by
      calc (digits : ℚ) * 10 ^ k < 10 ^ (size + k) := hhigh
        _ ≤ 10 ^ (-400 : Int) := zpow_le_zpow_right₀ (by norm_num) (by omega)
        _ ≤ 2 ^ (-1075 : Int) := least_bound
    obtain ⟨rfl, rfl⟩ := eq_zero_of_small hproper h hlt
    rfl
  · split
    · rename_i hlarge
      have hle : (2 : ℚ) ^ 1024 ≤ digits * 10 ^ k := by
        calc (2 : ℚ) ^ 1024 ≤ 10 ^ (400 : Int) := greatest_bound
          _ ≤ 10 ^ (size + k - 1) := zpow_le_zpow_right₀ (by norm_num) (by omega)
          _ ≤ digits * 10 ^ k := hlow
      exact absurd (lt_two_pow hproper h) hle.not_gt
    · rw [ten_zpow_eq] at h
      exact ofFraction_eq hproper (Nat.mul_pos hdigits (Nat.pow_pos (by decide)))
        (Nat.pow_pos (by decide)) h

/-! ## What is read -/

theorem roundDiv_le {q : Nat} (hden : 0 < den) (h : num < q * den) : roundDiv num den ≤ q := by
  have hnear : 2 * den * roundDiv num den ≤ 2 * num + den := (roundDiv_near hden).2
  have hle : 2 * den * roundDiv num den ≤ 2 * den * q + den := by nlinarith
  by_contra hlt
  have : 2 * den * (q + 1) ≤ 2 * den * roundDiv num den := Nat.mul_le_mul_left _ (by omega)
  nlinarith

theorem le_roundDiv {q : Nat} (hden : 0 < den) (h : q * den ≤ num) : q ≤ roundDiv num den := by
  have hnear : 2 * num ≤ 2 * den * roundDiv num den + den := (roundDiv_near hden).1
  have hle : 2 * den * q ≤ 2 * den * roundDiv num den + den := by nlinarith
  by_contra hlt
  have : 2 * den * (roundDiv num den + 1) ≤ 2 * den * q := Nat.mul_le_mul_left _ (by omega)
  nlinarith

theorem isNumber_ofFraction (negative : Bool) (num : Nat) (hden : 0 < den) :
    (ofFraction negative num den).IsNumber := by
  rcases Nat.eq_zero_or_pos num with rfl | hnum
  · exact ⟨by decide, by decide, by decide, .inr rfl⟩
  obtain ⟨hleast, hbelow, habove⟩ := exponentOf_spec hnum hden
  set x := exponentOf num den with hx
  have hscaled := scaled_pos num hden x
  have hle : roundDiv (scaled num den x).1 (scaled num den x).2 ≤ 2 ^ 53 :=
    roundDiv_le hscaled ((scaled_lt_iff hden _ x).mpr (by exact_mod_cast hbelow))
  have hge : 2 ^ 52 ≤ roundDiv (scaled num den x).1 (scaled num den x).2 ∨ x = -1074 := by
    refine habove.symm.imp_left fun habove => le_roundDiv hscaled (not_lt.mp ?_)
    rw [scaled_lt_iff hden, not_lt]
    exact_mod_cast habove
  rw [ofFraction_of_exponent hnum hx.symm rfl]
  split
  · split
    · trivial
    · exact ⟨by decide, by omega, by omega, .inl le_rfl⟩
  · split
    · trivial
    · exact ⟨by omega, hleast, by omega, hge⟩

theorem isNumber_ofDecimal (negative : Bool) (digits : Nat) (k : Int) :
    (ofDecimal negative digits k).IsNumber := by
  simp only [ofDecimal]
  split
  · exact ⟨by decide, by decide, by decide, .inr rfl⟩
  · split
    · trivial
    · exact isNumber_ofFraction _ _ (Nat.pow_pos (by decide))

theorem isNumber_of_ofText? {s : String} {x : Binary64} (h : ofText? s = some x) : x.IsNumber := by
  unfold ofText? ofChars? at h
  obtain ⟨negative, rest⟩ := splitSign (plain s.toList)
  dsimp only at h
  split at h
  · cases h
    trivial
  · split at h
    · cases h
      trivial
    · split at h
      all_goals
        split at h
        · cases h
        · obtain ⟨k, -, rfl⟩ := Option.map_eq_some_iff.mp h
          exact isNumber_ofDecimal _ _ _

end Binary64

end HttpContract
