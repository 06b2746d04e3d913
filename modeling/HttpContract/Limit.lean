import HttpContract.Value

/-!
# Limits of waits

A wait is given a value as its limit in seconds. Numbers above zero bound it, as far as a clock can count
them; other numbers leave no time at all, the absent value leaves all of it, and nothing else can be
waited for.
-/

namespace HttpContract

inductive Limit where
  | endless
  /-- So many nanoseconds. -/
  | within (time : Nat)
deriving Repr, DecidableEq, Inhabited

namespace Limit

inductive Error where
  | notComparable (kind : String)
  /-- More seconds than a clock counts. -/
  | tooLong
deriving Repr, DecidableEq, Inhabited

def Error.message : Error → String
  | notComparable kind => "'>' not supported between instances of '" ++ kind ++ "' and 'int'"
  | tooLong => "timestamp too large to convert to C _PyTime_t"

/-- In a second. -/
def nanoseconds : Nat := 1000000000

/-- Clocks count nanoseconds, fewer than these. -/
def countable : Nat := Nat.pow 2 63

/-- The limit of a ratio of nanoseconds, which counts up to the next whole one. -/
def ofRatio (num : Int) (den : Nat) : Except Error Limit :=
  if num ≤ 0 then .ok (within 0)
  else if num < countable * den then .ok (within ((num.toNat + den - 1) / den))
  else .error .tooLong

/-- The limit of a whole number of seconds. -/
def ofInt (n : Int) : Except Error Limit := ofRatio (n * nanoseconds) 1

/-- The limit of a number of seconds; the nanoseconds are rounded to a number of the same kind first. -/
def ofBinary64 (x : Binary64) : Except Error Limit :=
  match x, x.ratio? with
  | .infinity false, _ => .error .tooLong
  | _, some (num, den) =>
    match (Binary64.ofFraction (num < 0) (num.natAbs * nanoseconds) den).ratio? with
    | some (num, den) => ofRatio num den
    | none => if num ≤ 0 then .ok (within 0) else .error .tooLong
  | _, none => .ok (within 0)

/-- The limit that a value sets. -/
def ofValue (v : Value) : Except Error Limit :=
  match v with
  | .null => .ok endless
  | .bool b => ofInt (if b then 1 else 0)
  | .int n => ofInt n
  | .float x => ofBinary64 x
  | v => .error (.notComparable v.kindName)

end Limit

end HttpContract
