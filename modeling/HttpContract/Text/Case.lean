import HttpContract.Text.CaseTable

/-!
# Letter case

`lower` is the lower-case form of a text, `upperAscii?` the upper-case form of a text whose upper-case
form is ASCII. The first depends on the neighbours of a sigma, so it works on whole texts.
-/

namespace HttpContract.Text

/-! ## Lower case -/

/-- The lower-case form of one character, apart from its neighbours. -/
def lowerChar (c : Char) : List Char :=
  if c = '\u0130' then ['i', '\u0307'] else
    match lowerSteps.find? fun r =>
        r.1 ≤ c.toNat && c.toNat ≤ r.2.1 && (c.toNat - r.1) % r.2.2.1 == 0 with
    | some r => [Char.ofNat ((c.toNat : Int) + r.2.2.2).toNat]
    | none => [c]

/-- The nearest character that is not case-ignorable has a case. -/
def facesCased (s : List Char) : Bool :=
  match s.dropWhile fun c => inRanges caseIgnorable c.toNat with
  | [] => false
  | c :: _ => inRanges casedRanges c.toNat

/-- Lower case of a text after the characters of `before`, nearest first: a sigma at the end of a word
takes its final form. -/
def lowerAfter (before : List Char) : List Char → List Char
  | [] => []
  | c :: rest =>
    (if c = '\u03A3' then [if facesCased before && !facesCased rest then '\u03C2' else '\u03C3']
      else lowerChar c) ++ lowerAfter (c :: before) rest

def lower (s : List Char) : List Char := lowerAfter [] s

/-! ## Upper case -/

/-- The upper-case form of a character, when it is ASCII. -/
def upperAsciiChar? (c : Char) : Option (List Char) :=
  if c.toNat < 0x80 then some [c.toUpper] else
    match c.toNat with
    | 0xDF => some ['S', 'S']
    | 0x131 => some ['I']
    | 0x17F => some ['S']
    | 0xFB00 => some ['F', 'F']
    | 0xFB01 => some ['F', 'I']
    | 0xFB02 => some ['F', 'L']
    | 0xFB03 => some ['F', 'F', 'I']
    | 0xFB04 => some ['F', 'F', 'L']
    | 0xFB05 => some ['S', 'T']
    | 0xFB06 => some ['S', 'T']
    | _ => none

/-- The upper-case form of a text, when it is ASCII. -/
def upperAscii? : List Char → Option (List Char)
  | [] => some []
  | c :: rest => do return (← upperAsciiChar? c) ++ (← upperAscii? rest)

end HttpContract.Text
