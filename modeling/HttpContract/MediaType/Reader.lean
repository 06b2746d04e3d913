import HttpContract.MediaType.Basic
import HttpContract.Text.Blank
import HttpContract.Text.Pattern

/-!
# Reading media types

A media type is `type "/" subtype` followed by parameters `";" name "=" value` with blanks around the
marks; a value is a token or a quoted text. One pattern decides whether a text is a media type and where
its parameters begin; a second pattern then goes through the parameters, and a third takes the backslashes
out of a quoted value. Type, subtype and names are read in lower case.
-/

namespace HttpContract.MediaType

open Text (Pattern)

/-- Why a text is no media type. -/
inductive ParseError where
  | empty
  | malformed (text : String)
  | wildcardType (text : String)
deriving Repr, DecidableEq, Inhabited

def ParseError.message : ParseError → String
  | empty => "Media type must not be empty"
  | malformed text => "Invalid media type " ++ Text.quote text
  | wildcardType text =>
    "Invalid media type " ++ Text.quote text ++ ": wildcard type is legal only in '*/*'"

/-! ## Patterns -/

def blanksPattern : Pattern := .star (.one Text.isBlank)

def tokenPattern : Pattern := .plus (.one isTokenChar)

/-- A backslash and the character it stands for, which is not a line break. -/
def escapePattern : Pattern := .mark Text.backslash ++ .group "escaped" (.one (· ≠ '\n'))

def quotedCharPattern : Pattern :=
  .alt (.one fun c => c ≠ Text.doubleMark ∧ c ≠ Text.backslash)
    (.mark Text.backslash ++ .one (· ≠ '\n'))

def quotedPattern : Pattern := .mark Text.doubleMark ++ .star quotedCharPattern ++ .mark Text.doubleMark

def valuePattern : Pattern := .alt tokenPattern quotedPattern

/-- A parameter, with what is kept of its name and its value. -/
def parameterPattern (name value : Pattern → Pattern) : Pattern :=
  .mark ';' ++ blanksPattern ++ name tokenPattern ++ blanksPattern
    ++ .mark '=' ++ blanksPattern ++ value valuePattern ++ blanksPattern

def mediaTypePattern : Pattern :=
  blanksPattern ++ .group "type" tokenPattern ++ .mark '/' ++ .group "subtype" tokenPattern
    ++ blanksPattern ++ .group "params" (.star (parameterPattern id id))

/-! ## Parts -/

def lowerText (s : List Char) : String := String.ofList (s.map Char.toLower)

/-- A quoted text without its marks and the backslashes in it; any other text as it is. -/
def unquote (v : List Char) : List Char :=
  if 2 ≤ v.length ∧ v.head? = some Text.doubleMark ∧ v.getLast? = some Text.doubleMark then
    escapePattern.replace (·.group "escaped") v.tail.dropLast
  else v

/-- The parameters that are found in a text. -/
def parametersIn (s : List Char) : List (String × String) :=
  ((parameterPattern (.group "name") (.group "value")).scan s).map fun m =>
    (lowerText (m.group "name"), String.ofList (unquote (m.group "value")))

/-! ## Whole texts -/

/-- Reads a media type between blanks; a bare `*` stands for every media type. -/
def parse (text : String) : Except ParseError MediaType :=
  let s := Text.trim text.toList
  if s.isEmpty then .error .empty else
    match mediaTypePattern.fullMatch? (if s = ['*'] then ['*', '/', '*'] else s) with
    | none => .error (.malformed text)
    | some m =>
      let type := lowerText (m.group "type")
      let subtype := lowerText (m.group "subtype")
      if type = "*" ∧ subtype ≠ "*" then .error (.wildcardType text)
      else .ok ⟨type, subtype, parametersIn (m.group "params")⟩

/-- Reads each text as one media type and stops at the first that is none. -/
def parseList (texts : List String) : Except ParseError (List MediaType) := texts.mapM parse

end HttpContract.MediaType
