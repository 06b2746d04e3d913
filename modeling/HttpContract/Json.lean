import HttpContract.Number.Text
import HttpContract.Raised

/-!
# JSON documents

`Json.write` lays a document out over several lines, two spaces to a level, in ASCII only: every other
character of a text is written as one or two UTF-16 units. `Json.written` refuses long whole numbers first.
-/

namespace HttpContract

inductive Json where
  | null
  | bool (b : Bool)
  | int (n : Int)
  | float (x : Binary64)
  | str (s : String)
  | array (items : List Json)
  | object (fields : List (String × Json))
deriving Repr, BEq, Inhabited

namespace Json

/-! ## Texts -/

/-- The UTF-16 units of a character. -/
def units (c : Char) : List Nat :=
  let n := c.toNat
  if n < 0x10000 then [n]
  else [0xD800 + (n - 0x10000) / 0x400, 0xDC00 + (n - 0x10000) % 0x400]

/-- One character of a text. -/
def escape (c : Char) : List Char :=
  if c = Text.doubleMark || c = Text.backslash then [Text.backslash, c]
  else if c = '\n' then [Text.backslash, 'n']
  else if c = '\r' then [Text.backslash, 'r']
  else if c = '\t' then [Text.backslash, 't']
  else if c = '\u0008' then [Text.backslash, 'b']
  else if c = '\u000c' then [Text.backslash, 'f']
  else if 0x20 ≤ c.toNat && c.toNat < 0x7F then [c]
  else (units c).flatMap fun u => Text.backslash :: 'u' :: Text.hexDigits 4 u

def text (s : String) : List Char :=
  Text.doubleMark :: s.toList.flatMap escape ++ [Text.doubleMark]

/-! ## Numbers -/

/-- Numbers that are undefined or infinite have names of their own. -/
def number : Binary64 → List Char
  | .nan => "NaN".toList
  | .infinity false => "Infinity".toList
  | .infinity true => "-Infinity".toList
  | x => x.text.toList

/-! ## Layout -/

/-- A new line at the given level. -/
def newline (level : Nat) : List Char := '\n' :: List.replicate (2 * level) ' '

mutual

/-- A document whose enclosing containers are `level` deep. -/
def writeAt (level : Nat) : Json → List Char
  | null => "null".toList
  | bool true => "true".toList
  | bool false => "false".toList
  | int n => (toString n).toList
  | float x => number x
  | str s => text s
  | array [] => ['[', ']']
  | array (item :: items) =>
    '[' :: newline (level + 1) ++ writeAt (level + 1) item ++ writeItems (level + 1) items
      ++ newline level ++ [']']
  | object [] => ['\x7b', '\x7d']
  | object ((name, value) :: fields) =>
    '\x7b' :: newline (level + 1) ++ text name ++ ':' :: ' ' :: writeAt (level + 1) value
      ++ writeFields (level + 1) fields ++ newline level ++ ['\x7d']

/-- The items after the first, each after a comma on a line of its own. -/
def writeItems (level : Nat) : List Json → List Char
  | [] => []
  | item :: items => ',' :: newline level ++ writeAt level item ++ writeItems level items

def writeFields (level : Nat) : List (String × Json) → List Char
  | [] => []
  | (name, value) :: fields =>
    ',' :: newline level ++ text name ++ ':' :: ' ' :: writeAt level value
      ++ writeFields level fields

end

def write (j : Json) : String := String.ofList (writeAt 0 j)

/-! ## Long numerals -/

mutual

/-- The error of the first number in a document that is too long to be written. -/
def fault? : Json → Option Raised
  | int n => Raised.ofNumeral? n
  | array items => faultOfItems? items
  | object fields => faultOfFields? fields
  | _ => none

def faultOfItems? : List Json → Option Raised
  | [] => none
  | item :: items => item.fault?.or (faultOfItems? items)

def faultOfFields? : List (String × Json) → Option Raised
  | [] => none
  | (_, value) :: fields => value.fault?.or (faultOfFields? fields)

end

/-- The text of a document, where nothing is in the way. -/
def written (j : Json) : Except Raised String :=
  match j.fault? with
  | some e => .error e
  | none => .ok j.write

end Json

end HttpContract
