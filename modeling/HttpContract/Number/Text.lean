import HttpContract.Number.Digits
import HttpContract.Text.Blank
import HttpContract.Text.DecimalDigit

/-!
# Numbers as text

A `NumberStyle` says when digits are written positionally and whether a whole number keeps a fraction.
`Binary64.text` writes the fewest digits that read back, `Binary64.general` six significant digits, and
`Binary64.ofText?` reads.
-/

namespace HttpContract

/-- The decisions of a decimal notation: the exponents written positionally run from `lowest` up to, but
not including, `highest`; `keepFraction` writes `.0` after a whole number. -/
structure NumberStyle where
  lowest : Int
  highest : Int
  keepFraction : Bool
deriving Repr, DecidableEq

namespace NumberStyle

/-- Positional from 0.0001 below 10^16, always with a fraction. -/
def exact : NumberStyle := ⟨-4, 16, true⟩

/-- Positional from 0.0001 below 10^6, without a needless fraction. -/
def brief : NumberStyle := ⟨-4, 6, false⟩

def positional (style : NumberStyle) (d : Digits) : List Char :=
  let n : Int := d.digits.length
  if d.point ≤ 0 then '0' :: '.' :: List.replicate (-d.point).toNat '0' ++ d.digits
  else if d.point < n then
    d.digits.take d.point.toNat ++ '.' :: d.digits.drop d.point.toNat
  else
    d.digits ++ List.replicate (d.point - n).toNat '0' ++ (if style.keepFraction then ['.', '0'] else [])

/-- One digit, the others after a point, and an exponent with a sign and at least two digits. -/
def scientific (d : Digits) : List Char :=
  let e := d.point - 1
  let exponent := Nat.toDigits 10 e.natAbs
  let head := match d.digits with
    | [] => []
    | [c] => [c]
    | c :: rest => c :: '.' :: rest
  head ++ 'e' :: (if e < 0 then '-' else '+') ::
    (if exponent.length < 2 then '0' :: exponent else exponent)

def write (style : NumberStyle) (d : Digits) : List Char :=
  if style.lowest ≤ d.point - 1 ∧ d.point - 1 < style.highest then style.positional d
  else scientific d

end NumberStyle

namespace Binary64

def signed (negative : Bool) (s : List Char) : String :=
  String.ofList (if negative then '-' :: s else s)

/-- The number in the fewest digits that read back as it. -/
def text : Binary64 → String
  | nan => "nan"
  | infinity negative => signed negative ['i', 'n', 'f']
  | finite negative m e => signed negative (NumberStyle.exact.write (shortest m e))

/-- The number in at most six significant digits. -/
def general : Binary64 → String
  | nan => "nan"
  | infinity negative => signed negative ['i', 'n', 'f']
  | finite negative m e => signed negative (NumberStyle.brief.write (significant 6 m e))

/-! ## Reading -/

/-- Digits with single underscores between them, and what follows. -/
def takeDigits : List Char → List Char × List Char
  | [] => ([], [])
  | c :: rest =>
    if c.isDigit then (c :: (takeDigits rest).1, (takeDigits rest).2)
    else if c = '_' then
      match rest with
      | d :: _ => if d.isDigit then takeDigits rest else ([], c :: rest)
      | [] => ([], [c])
    else ([], c :: rest)

/-- A run of digits starts with a digit. -/
def digitRun : List Char → List Char × List Char
  | '_' :: rest => ([], '_' :: rest)
  | s => takeDigits s

def natOf (ds : List Char) : Nat := ds.foldl (fun n c => 10 * n + (c.toNat - 0x30)) 0

def splitSign : List Char → Bool × List Char
  | '-' :: rest => (true, rest)
  | '+' :: rest => (false, rest)
  | s => (false, s)

/-- The exponent after a mantissa, when nothing else follows. -/
def exponentPart? : List Char → Option Int
  | [] => some 0
  | c :: rest =>
    if c = 'e' || c = 'E' then
      let (negative, rest) := splitSign rest
      match digitRun rest with
      | ([], _) => none
      | (ds, []) => some (if negative then -(natOf ds : Int) else natOf ds)
      | _ => none
    else none

/-- The separators of records are no space around a number. -/
def isSpace (c : Char) : Bool := Text.isBlank c && !(0x1C ≤ c.toNat && c.toNat ≤ 0x1F)

/-- The text of a number in ASCII: without the space around it, and with the digits of every script as
those of ASCII. -/
def plain (s : List Char) : List Char :=
  (((s.dropWhile isSpace).reverse.dropWhile isSpace).reverse).map fun c =>
    match Text.digit? c with
    | some d => Nat.digitChar d
    | none => c

def ofChars? (s : List Char) : Option Binary64 :=
  let (negative, s) := splitSign (plain s)
  let word := String.ofList (s.map Char.toLower)
  if word = "nan" then some nan
  else if word = "inf" || word = "infinity" then some (infinity negative)
  else
    let (whole, rest) := digitRun s
    let (frac, rest) := match rest with
      | '.' :: more => digitRun more
      | _ => ([], rest)
    if whole.isEmpty && frac.isEmpty then none else
      (exponentPart? rest).map fun k => ofDecimal negative (natOf (whole ++ frac)) (k - frac.length)

def ofText? (s : String) : Option Binary64 := ofChars? s.toList

end Binary64

end HttpContract
