import HttpContract.Text.Printable

/-!
# Quoted texts

`quote` writes a text or a sequence of bytes between quotes. The mark is `'` unless the text holds `'`
and no `"`; the mark and the backslash are escaped, and so is every character that cannot be printed.
-/

namespace HttpContract.Text

def singleMark : Char := '\x27'
def doubleMark : Char := '\x22'
def backslash : Char := '\x5c'

/-! ## Escapes -/

def hexDigit (n : Nat) : Char := if n < 10 then Char.ofNat (0x30 + n) else Char.ofNat (0x57 + n)

/-- The last `width` hexadecimal digits of a number, lower case. -/
def hexDigits : (width : Nat) → Nat → List Char
  | 0, _ => []
  | width + 1, n => hexDigits width (n / 16) ++ [hexDigit (n % 16)]

/-- A code point in the shortest of the three hexadecimal escapes that hold it. -/
def hexEscape (n : Nat) : List Char :=
  if n < 0x100 then backslash :: 'x' :: hexDigits 2 n
  else if n < 0x10000 then backslash :: 'u' :: hexDigits 4 n
  else backslash :: 'U' :: hexDigits 8 n

/-- One character inside quotes of the given mark. -/
def escape (mark : Char) (printable : Char → Bool) (c : Char) : List Char :=
  if c = mark || c = backslash then [backslash, c]
  else if c = '\n' then [backslash, 'n']
  else if c = '\r' then [backslash, 'r']
  else if c = '\t' then [backslash, 't']
  else if printable c then [c]
  else hexEscape c.toNat

/-! ## Quoting -/

def markFor (s : List Char) : Char :=
  if s.contains singleMark && !s.contains doubleMark then doubleMark else singleMark

def quoteWith (printable : Char → Bool) (s : List Char) : List Char :=
  markFor s :: s.flatMap (escape (markFor s) printable) ++ [markFor s]

/-- A text between quotes. -/
def quote (s : String) : String := String.ofList (quoteWith isPrintable s.toList)

/-- Bytes between quotes after the letter `b`; only those of printable ASCII stand for themselves. -/
def quoteBytes (bytes : List UInt8) : String :=
  String.ofList ('b' :: quoteWith (fun c => 0x20 ≤ c.toNat && c.toNat < 0x7F)
    (bytes.map fun b => Char.ofNat b.toNat))

end HttpContract.Text
