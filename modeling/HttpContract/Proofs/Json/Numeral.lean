import HttpContract.Proofs.Json.Grammar
import HttpContract.Proofs.Number.Shortest

/-!
# Numbers in documents

Whole numbers and finite binary numbers are written as the grammar wants it, and are read back. The names of the
undefined number and of the infinities begin no value.
-/

namespace HttpContract.Json

open Binary64 (natOf)

variable {d : Digits}

/-! ## Whole numbers -/

def DigitRun.ofNat (n : Nat) : DigitRun where
  chars := Nat.toDigits 10 n
  chars_ne_nil := Nat.toDigits_ne_nil
  isDigit_chars _ hc := Nat.isDigit_of_mem_toDigits (by decide) (by decide) hc

theorem plain_toDigits (n : Nat) (h : (Nat.toDigits 10 n).head? = some '0') : Nat.toDigits 10 n = ['0'] := by
  rcases Nat.eq_zero_or_pos n with rfl | hn
  · rfl
  · exact absurd h (head?_toDigits_ne_zero hn)

def WrittenNumber.ofInt (n : Int) : WrittenNumber where
  negative := n < 0
  whole := .ofNat n.natAbs
  fraction := none
  exponent := none
  plain_whole := plain_toDigits n.natAbs

theorem text_ofInt (n : Int) : (WrittenNumber.ofInt n).text = (toString n).toList := by
  have htext : (WrittenNumber.ofInt n).text = (if n < 0 then ['-'] else []) ++ Nat.toDigits 10 n.natAbs := by
    simp [WrittenNumber.text, WrittenNumber.ofInt, WrittenNumber.fractionText, WrittenNumber.exponentText,
      DigitRun.ofNat]
  rw [htext]
  cases n with
  | ofNat n =>
      have hpositive : toString (Int.ofNat n) = toString n := rfl
      rw [hpositive]
      simp
  | negSucc n =>
      have hnegative : toString (Int.negSucc n) = "-" ++ toString (n + 1) := rfl
      simp [hnegative, Int.negSucc_lt_zero]

theorem value_ofInt (n : Int) : (WrittenNumber.ofInt n).value = .int n := by
  have hsignificand : (WrittenNumber.ofInt n).significand = n.natAbs := by
    simp [WrittenNumber.significand, WrittenNumber.decimals, WrittenNumber.ofInt, DigitRun.ofNat]
  unfold WrittenNumber.value
  rw [if_pos ⟨rfl, rfl⟩, hsignificand]
  simp only [WrittenNumber.ofInt, decide_eq_true_eq, Json.int.injEq]
  split <;> omega

/-! ## Digits with a point or an exponent -/

/-- The number is written with a fraction or an exponent, and stands for what the digits stand for. -/
structure Writes (w : WrittenNumber) (negative : Bool) (d : Digits) : Prop where
  sign : w.negative = negative
  text : w.text = (if negative then ['-'] else []) ++ NumberStyle.exact.write d
  not_whole : ¬ (w.fraction.isNone ∧ w.exponent.isNone)
  value : (w.significand : ℚ) * 10 ^ w.scale = d.value

theorem isDigit_of_mem_replicate {n : Nat} {c : Char} (hc : c ∈ List.replicate n '0') : c.isDigit = true := by
  rw [List.eq_of_mem_replicate hc]
  rfl

/-- A run of zeros and digits. -/
def DigitRun.padded (h : d.Regular) (before after : Nat) : DigitRun where
  chars := List.replicate before '0' ++ (d.digits ++ List.replicate after '0')
  chars_ne_nil := by simp [h.ne_nil]
  isDigit_chars c hc := by
    rw [List.mem_append, List.mem_append] at hc
    obtain hc | hc | hc := hc
    · exact isDigit_of_mem_replicate hc
    · exact h.isDigit c hc
    · exact isDigit_of_mem_replicate hc

def DigitRun.zero : DigitRun := ⟨['0'], by simp, by simp⟩

theorem write_positional (h : -4 ≤ d.point - 1 ∧ d.point - 1 < 16) :
    NumberStyle.exact.write d = NumberStyle.exact.positional d := if_pos h

theorem exists_writes_small (negative : Bool) (h : d.Regular) (hnear : -4 ≤ d.point - 1 ∧ d.point - 1 < 16)
    (hpoint : d.point ≤ 0) : ∃ w, Writes w negative d := by
  let w : WrittenNumber :=
    { negative
      whole := .zero
      fraction := some (.padded h (-d.point).toNat 0)
      exponent := none
      plain_whole := fun _ => rfl }
  have hdecimals : w.decimals = List.replicate (-d.point).toNat '0' ++ d.digits := by
    simp [w, WrittenNumber.decimals, DigitRun.padded]
  refine ⟨w, rfl, ?_, by simp [w], ?_⟩
  · rw [write_positional hnear, NumberStyle.positional, if_pos hpoint]
    simp [w, WrittenNumber.text, WrittenNumber.fractionText, WrittenNumber.exponentText, DigitRun.padded,
      DigitRun.zero]
  · have hsignificand : w.significand = natOf d.digits := by
      rw [WrittenNumber.significand, hdecimals]
      simp [w, DigitRun.zero, Binary64.natOf_append]
    have hscale : w.scale = d.point - d.digits.length := by
      rw [WrittenNumber.scale, hdecimals]
      simp only [w, List.length_append, List.length_replicate, Option.map_none, Option.getD_none]
      omega
    rw [hsignificand, hscale, Digits.value]

theorem exists_writes_middle (negative : Bool) (h : d.Regular) (hnear : -4 ≤ d.point - 1 ∧ d.point - 1 < 16)
    (hpoint : 0 < d.point) (hlength : d.point < d.digits.length) : ∃ w, Writes w negative d := by
  have hfirst : d.digits.head? ≠ some '0' := h.first.resolve_right fun hzero => by simp_all
  have htake : d.digits.take d.point.toNat ≠ [] := by simpa [h.ne_nil] using hpoint
  have hdrop : d.digits.drop d.point.toNat ≠ [] := by
    rw [ne_eq, List.drop_eq_nil_iff]
    omega
  let w : WrittenNumber :=
    { negative
      whole := ⟨d.digits.take d.point.toNat, htake, fun c hc => h.isDigit c (List.mem_of_mem_take hc)⟩
      fraction := some ⟨d.digits.drop d.point.toNat, hdrop, fun c hc => h.isDigit c (List.mem_of_mem_drop hc)⟩
      exponent := none
      plain_whole := fun hhead => by
        -- the whole part begins with the first of all digits, which is no zero
        have hkept : (d.digits.take d.point.toNat ++ d.digits.drop d.point.toNat).head? =
            (d.digits.take d.point.toNat).head? := List.head?_append_of_ne_nil _ htake
        rw [List.take_append_drop] at hkept
        exact absurd (hkept.trans hhead) hfirst }
  have hdecimals : w.decimals = d.digits.drop d.point.toNat := rfl
  refine ⟨w, rfl, ?_, by simp [w], ?_⟩
  · rw [write_positional hnear, NumberStyle.positional, if_neg hpoint.not_ge, if_pos hlength]
    simp [w, WrittenNumber.text, WrittenNumber.fractionText, WrittenNumber.exponentText]
  · have hsignificand : w.significand = natOf d.digits := by
      rw [WrittenNumber.significand, hdecimals]
      exact congrArg natOf (List.take_append_drop _ _)
    have hscale : w.scale = d.point - d.digits.length := by
      rw [WrittenNumber.scale, hdecimals]
      simp only [w, List.length_drop, Option.map_none, Option.getD_none]
      omega
    rw [hsignificand, hscale, Digits.value]

theorem exists_writes_large (negative : Bool) (h : d.Regular) (hnear : -4 ≤ d.point - 1 ∧ d.point - 1 < 16)
    (hpoint : 0 < d.point) (hlength : d.digits.length ≤ d.point) : ∃ w, Writes w negative d := by
  let zeros := (d.point - d.digits.length).toNat
  let w : WrittenNumber :=
    { negative
      whole := .padded h 0 zeros
      fraction := some .zero
      exponent := none
      plain_whole := fun hhead => by
        have hzero : d = ⟨['0'], 1⟩ := h.first.resolve_left fun hne => hne (by
          simpa [DigitRun.padded, List.head?_append_of_ne_nil _ h.ne_nil] using hhead)
        simp [DigitRun.padded, zeros, hzero] }
  have hdecimals : w.decimals = ['0'] := rfl
  refine ⟨w, rfl, ?_, by simp [w], ?_⟩
  · rw [write_positional hnear, NumberStyle.positional, if_neg hpoint.not_ge, if_neg hlength.not_gt]
    simp [w, zeros, WrittenNumber.text, WrittenNumber.fractionText, WrittenNumber.exponentText, DigitRun.padded,
      DigitRun.zero, NumberStyle.exact]
  · have hsignificand : w.significand = 10 ^ (zeros + 1) * natOf d.digits := by
      rw [WrittenNumber.significand, hdecimals]
      simp [w, DigitRun.padded, Binary64.natOf_append, pow_succ]
    have hscale : w.scale = -1 := rfl
    -- the zero after the point counts as one more digit
    have hzeros : d.point - d.digits.length = ((zeros + 1 : Nat) : Int) + -1 := by omega
    rw [hsignificand, hscale, Digits.value, hzeros, zpow_add₀ (by norm_num), zpow_natCast]
    push_cast
    ring

/-- At least two digits of a number. -/
def DigitRun.atLeastTwo (n : Nat) : DigitRun :=
  if (Nat.toDigits 10 n).length < 2 then
    ⟨'0' :: (DigitRun.ofNat n).chars, by simp, by simpa using (DigitRun.ofNat n).isDigit_chars⟩
  else .ofNat n

theorem chars_atLeastTwo (n : Nat) : (DigitRun.atLeastTwo n).chars =
    if (Nat.toDigits 10 n).length < 2 then '0' :: Nat.toDigits 10 n else Nat.toDigits 10 n := by
  unfold DigitRun.atLeastTwo
  split <;> rfl

theorem natOf_atLeastTwo (n : Nat) : natOf (DigitRun.atLeastTwo n).chars = n := by
  rw [chars_atLeastTwo]
  split <;> simp

def WrittenExponent.ofInt (e : Int) : WrittenExponent where
  capital := false
  sign := if e < 0 then .minus else .plus
  digits := .atLeastTwo e.natAbs

theorem value_writtenExponent (e : Int) : (WrittenExponent.ofInt e).value = e := by
  by_cases he : e < 0
  · simp [WrittenExponent.value, WrittenExponent.ofInt, he, natOf_atLeastTwo, abs_of_neg he]
  · simp [WrittenExponent.value, WrittenExponent.ofInt, he, natOf_atLeastTwo, abs_of_nonneg (not_lt.mp he)]

theorem text_writtenExponent (e : Int) : (WrittenExponent.ofInt e).text = 'e' :: (if e < 0 then '-' else '+') ::
    (if (Nat.toDigits 10 e.natAbs).length < 2 then '0' :: Nat.toDigits 10 e.natAbs
      else Nat.toDigits 10 e.natAbs) := by
  rw [← chars_atLeastTwo]
  by_cases he : e < 0 <;> simp [WrittenExponent.text, WrittenExponent.ofInt, Sign.text, he]

theorem exists_writes_scientific (negative : Bool) (h : d.Regular)
    (hfar : ¬ (-4 ≤ d.point - 1 ∧ d.point - 1 < 16)) : ∃ w, Writes w negative d := by
  obtain ⟨c, rest, hdigits⟩ := List.exists_cons_of_ne_nil h.ne_nil
  have hisDigit := h.isDigit
  rw [hdigits] at hisDigit
  let w : WrittenNumber :=
    { negative
      whole := ⟨[c], by simp, by simpa using hisDigit c (by simp)⟩
      fraction := if hrest : rest = [] then none else some ⟨rest, hrest, fun x hx => hisDigit x (by simp [hx])⟩
      exponent := some (.ofInt (d.point - 1))
      plain_whole := fun hhead => by simpa using hhead }
  have hdecimals : w.decimals = rest := by
    by_cases hrest : rest = [] <;> simp [w, WrittenNumber.decimals, hrest]
  refine ⟨w, rfl, ?_, by simp [w], ?_⟩
  · have hwrite : NumberStyle.exact.write d = NumberStyle.scientific d := if_neg hfar
    have hexponent : WrittenNumber.exponentText w.exponent = _ := text_writtenExponent (d.point - 1)
    rw [hwrite, NumberStyle.scientific, hdigits, WrittenNumber.text, hexponent]
    cases rest <;> simp [w, WrittenNumber.fractionText]
  · have hsignificand : w.significand = natOf d.digits := by
      rw [WrittenNumber.significand, hdecimals, hdigits]
      rfl
    have hscale : w.scale = d.point - d.digits.length := by
      rw [WrittenNumber.scale, hdecimals, hdigits]
      simp only [w, Option.map_some, Option.getD_some, value_writtenExponent, List.length_cons]
      omega
    rw [hsignificand, hscale, Digits.value]

theorem exists_writes (negative : Bool) (h : d.Regular) : ∃ w, Writes w negative d := by
  by_cases hnear : -4 ≤ d.point - 1 ∧ d.point - 1 < 16
  · rcases lt_or_ge 0 d.point with hpoint | hpoint
    · rcases lt_or_ge d.point d.digits.length with hlength | hlength
      · exact exists_writes_middle negative h hnear hpoint hlength
      · exact exists_writes_large negative h hnear hpoint hlength
    · exact exists_writes_small negative h hnear hpoint
  · exact exists_writes_scientific negative h hnear

/-! ## Binary numbers -/

theorem number_finite (negative : Bool) (m : Nat) (e : Int) : number (.finite negative m e) =
    (if negative then ['-'] else []) ++ NumberStyle.exact.write (Binary64.shortest m e) := by
  have htext : number (.finite negative m e) =
      (Binary64.signed negative (NumberStyle.exact.write (Binary64.shortest m e))).toList := rfl
  rw [htext, Binary64.signed, String.toList_ofList]
  cases negative <;> rfl

theorem exists_written_finite (negative : Bool) {m : Nat} {e : Int} (h : Binary64.Proper m e) :
    ∃ w : WrittenNumber, w.text = number (.finite negative m e) ∧ w.value = .float (.finite negative m e) := by
  obtain ⟨hregular, hrounds⟩ := Binary64.shortest_spec (e := e) h.significand
  obtain ⟨w, hw⟩ := exists_writes negative hregular
  rw [← hw.value] at hrounds
  refine ⟨w, hw.text.trans (number_finite negative m e).symm, ?_⟩
  rw [WrittenNumber.value, if_neg hw.not_whole, hw.sign, Binary64.ofDecimal_eq h hrounds]

theorem stops_isOutside_number {x : Binary64} (hproper : x.IsNumber) (s : List Char) :
    Text.Stops isOutside (number x ++ s) := by
  cases x with
  | nan => exact Text.stops_cons.mpr rfl
  | infinity negative => cases negative <;> exact Text.stops_cons.mpr rfl
  | finite negative m e =>
      obtain ⟨w, htext, -⟩ := exists_written_finite negative hproper
      rw [← htext]
      exact (Reads.number w).stops_isOutside

/-- The names of the undefined number and of the infinities begin no value. -/
theorem not_reads_number {x : Binary64} {j : Json} {s r : List Char} (hx : ¬ x.IsFinite) :
    ¬ Reads (number x ++ s) j r := by
  intro h
  have hfirst := h.exists_cons
  match x with
  | .finite .. => exact hx trivial
  | .nan =>
      obtain ⟨c, t, heq, hc⟩ := hfirst
      cases heq
      exact absurd hc (by decide)
  | .infinity false =>
      obtain ⟨c, t, heq, hc⟩ := hfirst
      cases heq
      exact absurd hc (by decide)
  | .infinity true =>
      obtain ⟨w, hw, -⟩ := Reads.of_number (c := '-') (.inr rfl) h
      exact w.append_ne_minus_cons (by decide) _ hw.symm

end HttpContract.Json
