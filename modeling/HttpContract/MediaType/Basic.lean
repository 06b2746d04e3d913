import HttpContract.Assoc
import HttpContract.Text.Quoted

/-!
# Media types

A media type such as `application/json; charset=utf-8`. `MediaType.text` writes the form used in header
fields: a parameter value is quoted unless it is a token.
-/

namespace HttpContract

structure MediaType where
  type : String
  subtype : String
  parameters : List (String × String) := []
deriving Repr, DecidableEq, Inhabited

namespace MediaType

/-! ## Tokens -/

def isTokenChar (c : Char) : Bool :=
  c.isAlphanum || c ∈ ['!', '#', '$', '%', '&', Text.singleMark, '*', '+', '-', '.', '^', '_', '\x60',
    '|', '~']

/-- A token is a non-empty run of token characters. -/
def isToken (s : List Char) : Bool := !s.isEmpty && s.all isTokenChar

/-! ## Views -/

/-- The type and subtype without the parameters. -/
def essence (m : MediaType) : String := m.type ++ "/" ++ m.subtype

def isWildcard (m : MediaType) : Bool := m.type == "*" || m.subtype == "*"

/-- The parameters by name: a repeated name keeps its first place and its last value. -/
def parameterMap (m : MediaType) : Assoc String String := Assoc.ofList m.parameters

/-! ## Writing -/

/-- A character inside a quoted parameter value. -/
def escape (c : Char) : List Char :=
  if c = Text.doubleMark || c = Text.backslash then [Text.backslash, c] else [c]

def writeValue (v : List Char) : List Char :=
  if isToken v then v else Text.doubleMark :: v.flatMap escape ++ [Text.doubleMark]

def writeParameter (p : String × String) : List Char :=
  ';' :: p.1.toList ++ '=' :: writeValue p.2.toList

def write (m : MediaType) : List Char :=
  m.type.toList ++ '/' :: m.subtype.toList ++ m.parameters.flatMap writeParameter

def text (m : MediaType) : String := String.ofList m.write

/-! ## Common media types -/

def all : MediaType := { type := "*", subtype := "*" }
def applicationJson : MediaType := { type := "application", subtype := "json" }
def applicationOctetStream : MediaType := { type := "application", subtype := "octet-stream" }
def textEventStream : MediaType := { type := "text", subtype := "event-stream" }
def textPlain : MediaType := { type := "text", subtype := "plain" }

end MediaType

end HttpContract
