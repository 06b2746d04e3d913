import HttpContract.Text.Quoted

/-!
# Texts that must be ASCII

`outsideAscii?` finds the first run of characters that ASCII cannot encode. The run is reported by its
position and, when it is a single character, by that character.
-/

namespace HttpContract.Text

def isAscii (c : Char) : Bool := c.toNat < 0x80

/-- A maximal run of characters outside ASCII: its first character, position and length. -/
structure ForeignRun where
  first : Char
  start : Nat
  length : Nat
deriving Repr, DecidableEq, Inhabited

/-- The first run outside ASCII of a text that starts at position `at_`. -/
def foreignRunFrom (at_ : Nat) : List Char → Option ForeignRun
  | [] => none
  | c :: rest =>
    if isAscii c then foreignRunFrom (at_ + 1) rest
    else some ⟨c, at_, 1 + (rest.takeWhile fun d => !isAscii d).length⟩

def outsideAscii? (s : String) : Option ForeignRun := foreignRunFrom 0 s.toList

theorem foreignRunFrom_eq_none_iff {at_ : Nat} {s : List Char} :
    foreignRunFrom at_ s = none ↔ ∀ c ∈ s, isAscii c = true := by
  induction s generalizing at_ with
  | nil => simp [foreignRunFrom]
  | cons c rest ih => by_cases h : isAscii c = true <;> simp [foreignRunFrom, h, ih]

theorem outsideAscii?_eq_none_iff {s : String} :
    outsideAscii? s = none ↔ ∀ c ∈ s.toList, isAscii c = true :=
  foreignRunFrom_eq_none_iff

def ForeignRun.message (run : ForeignRun) : String :=
  "'ascii' codec can't encode " ++
    (if run.length = 1 then
      "character '" ++ String.ofList (hexEscape run.first.toNat) ++ "' in position "
        ++ toString run.start
    else
      "characters in position " ++ toString run.start ++ "-"
        ++ toString (run.start + run.length - 1))
    ++ ": ordinal not in range(128)"

end HttpContract.Text
