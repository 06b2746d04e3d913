/-!
# Binary floating-point numbers of 64 bits

Numbers are read from exact fractions by rounding to the nearest representable one, a tie going to the
even significand. There is no arithmetic on them: a number is only read, compared with zero and shown.
-/

namespace HttpContract

/-- `finite s m e` is `m · 2^e`, negated when `s`. -/
inductive Binary64 where
  | nan
  | infinity (negative : Bool)
  | finite (negative : Bool) (significand : Nat) (exponent : Int)
deriving Repr, DecidableEq, Inhabited

/-! ## Rounding a quotient -/

/-- The whole number nearest to `num / den`; a half goes to the even neighbour. -/
def roundDiv (num den : Nat) : Nat :=
  let q := num / den
  let r := num % den
  if 2 * r < den ∨ (2 * r = den ∧ q % 2 = 0) then q else q + 1

theorem roundDiv_near {num den : Nat} (h : 0 < den) :
    2 * num ≤ 2 * den * roundDiv num den + den ∧ 2 * den * roundDiv num den ≤ 2 * num + den := by
  have hdiv := Nat.div_add_mod num den
  have hmod := Nat.mod_lt num h
  have hmul : ∀ q, 2 * den * q = 2 * (den * q) := fun q => Nat.mul_assoc 2 den q
  have hstep : den * (num / den + 1) = den * (num / den) + den := Nat.mul_succ den (num / den)
  rw [hmul]
  by_cases hc : 2 * (num % den) < den ∨ (2 * (num % den) = den ∧ num / den % 2 = 0)
  · rw [roundDiv, if_pos hc]; omega
  · rw [roundDiv, if_neg hc]; omega

namespace Binary64

/-- The sides of a fraction divided by `2^e`. -/
def scaled (num den : Nat) (e : Int) : Nat × Nat :=
  (num * Nat.pow 2 (-e).toNat, den * Nat.pow 2 e.toNat)

/-- The exponent at which the significand of `num / den` takes 53 bits, never below the smallest. -/
def exponentOf (num den : Nat) : Int :=
  let guess : Int := (Nat.log2 num : Int) - (Nat.log2 den : Int) - 52
  let (n, d) := scaled num den guess
  max (if n / d < Nat.pow 2 52 then guess - 1 else guess) (-1074)

/-- The number nearest to the fraction `num / den`, or an infinity beyond the largest. -/
def ofFraction (negative : Bool) (num den : Nat) : Binary64 :=
  if num = 0 then finite negative 0 (-1074) else
    let e := exponentOf num den
    let (n, d) := scaled num den e
    let m := roundDiv n d
    let (m, e) := if m = Nat.pow 2 53 then (Nat.pow 2 52, e + 1) else (m, e)
    if 971 < e then infinity negative else finite negative m e

def ofInt (n : Int) : Binary64 := ofFraction (n < 0) n.natAbs 1

/-- `m · 10^k`; exponents that lie beyond every number are not computed. -/
def ofDecimal (negative : Bool) (m : Nat) (k : Int) : Binary64 :=
  let size : Int := (Nat.toDigits 10 m).length
  if m = 0 ∨ size + k < -400 then finite negative 0 (-1074)
  else if 400 < size + k then infinity negative
  else ofFraction negative (m * Nat.pow 10 k.toNat) (Nat.pow 10 (-k).toNat)

/-- A number as an exact fraction, if it is finite. -/
def ratio? : Binary64 → Option (Int × Nat)
  | finite negative m e =>
    some ((if negative then -1 else 1) * (m * Nat.pow 2 e.toNat : Nat), Nat.pow 2 (-e).toNat)
  | _ => none

/-! ## Comparison with zero -/

def isZero : Binary64 → Bool
  | finite _ m _ => m == 0
  | _ => false

/-- A number is at most zero when it is a zero or negative; an undefined number is not. -/
def atMostZero : Binary64 → Bool
  | nan => false
  | infinity negative => negative
  | finite negative m _ => negative || m == 0

end Binary64

end HttpContract
