import HttpContract.Number.Binary64

/-!
# Decimal digits of binary numbers

`shortest` gives the fewest decimal digits that read back as the same number, `significant` the digits
of the number rounded to a given count. Both work in exact arithmetic on the grid of the numbers
`q · 10^(k-n)` around the given one.
-/

namespace HttpContract

/-- The number `0.d₁d₂… · 10^point`. -/
structure Digits where
  digits : List Char
  point : Int
deriving Repr, DecidableEq, Inhabited

namespace Digits

/-- Digits without the zeros at their end; zero keeps one digit. -/
def trimZeros (ds : List Char) : List Char :=
  match (ds.reverse.dropWhile (· == '0')).reverse with
  | [] => ['0']
  | kept => kept

/-- The number `q · 10^(point - n)`. -/
def ofGrid (q n : Nat) (point : Int) : Digits :=
  let ds := Nat.toDigits 10 q
  ⟨trimZeros ds, point + ds.length - n⟩

end Digits

namespace Binary64

/-! ## The decimal grid -/

/-- The `k` with `10^(k-1) ≤ num / den < 10^k`. -/
def magnitude (num den : Nat) : Int :=
  let k : Int := (Nat.toDigits 10 num).length - (Nat.toDigits 10 den).length
  if num * Nat.pow 10 (-k).toNat < den * Nat.pow 10 k.toNat then k else k + 1

/-- `m · 2^e` as a fraction. -/
def fraction (m : Nat) (e : Int) : Nat × Nat := (m * Nat.pow 2 e.toNat, Nat.pow 2 (-e).toNat)

/-- A step of the grid and a quarter of a unit in the last binary place, in one common measure. -/
def measures (n : Nat) (k e : Int) : Nat × Nat :=
  (Nat.pow 10 (k - n).toNat * Nat.pow 2 (2 - e).toNat,
    Nat.pow 2 (e - 2).toNat * Nat.pow 10 (n - k).toNat)

/-- The point of the grid of `n` digits that reads back as `m · 2^e` and lies nearest to it; of two at
the same distance the even one. -/
def gridPoint? (m : Nat) (e k : Int) (n : Nat) : Option Nat :=
  let (step, quarter) := measures n k e
  let value := 4 * m * quarter
  let low := (if m = Nat.pow 2 52 ∧ e ≠ -1074 then 4 * m - 1 else 4 * m - 2) * quarter
  let high := (4 * m + 2) * quarter
  let readsBack (q : Nat) : Bool :=
    (low < q * step && q * step < high) || (m % 2 == 0 && (low == q * step || q * step == high))
  let q := value / step
  let below := value - q * step
  let above := (q + 1) * step - value
  match readsBack q, readsBack (q + 1) with
  | true, true => some (if below < above || (below == above && q % 2 == 0) then q else q + 1)
  | true, false => some q
  | false, true => some (q + 1)
  | false, false => none

/-! ## Digits -/

/-- The digits of `m · 2^e` rounded to `n` places; a half goes to the even neighbour. -/
def significant (n m : Nat) (e : Int) : Digits :=
  if m = 0 then ⟨['0'], 1⟩ else
    let (num, den) := fraction m e
    let k := magnitude num den
    Digits.ofGrid (roundDiv (num * Nat.pow 10 (n - k).toNat) (den * Nat.pow 10 (k - n).toNat)) n k

/-- The fewest digits that read back as `m · 2^e`; seventeen always do. -/
def shortest (m : Nat) (e : Int) : Digits :=
  if m = 0 then ⟨['0'], 1⟩ else
    let (num, den) := fraction m e
    let k := magnitude num den
    let found := (List.range 17).findSome? fun i =>
      (gridPoint? m e k (i + 1)).map fun q => Digits.ofGrid q (i + 1) k
    found.getD (significant 17 m e)

end Binary64

end HttpContract
