import HttpContract.Text.Ascii
import HttpContract.Text.Case

/-!
# Header fields

An ordered list of fields, stored as bytes. A name is looked up by its bytes in lower case. The encoding
of a list is settled when it is first read and then also governs what may be written.
-/

namespace HttpContract

/-! ## Encodings -/

inductive Encoding where
  | ascii
  | utf8
deriving Repr, DecidableEq, Inhabited

namespace Encoding

def isAsciiBytes (b : ByteArray) : Bool := b.data.all (· < 0x80)

/-- UTF-8 has bytes for every text, which is a sequence of scalar values. -/
def encode : Encoding → String → Except Text.ForeignRun ByteArray
  | utf8, s => .ok s.toUTF8
  | ascii, s =>
    match Text.outsideAscii? s with
    | none => .ok s.toUTF8
    | some run => .error run

def decode? : Encoding → ByteArray → Option String
  | utf8, b => String.fromUTF8? b
  | ascii, b => if isAsciiBytes b then String.fromUTF8? b else none

end Encoding

/-- Bytes with the letters of ASCII in lower case. -/
def lowerBytes (b : ByteArray) : ByteArray :=
  ⟨b.data.map fun x => if 0x41 ≤ x ∧ x ≤ 0x5A then x + 0x20 else x⟩

/-- Bytes as the characters of the same numbers. -/
def bytesAsText (b : ByteArray) : String :=
  String.ofList (b.data.toList.map fun x => Char.ofNat x.toNat)

/-! ## Fields -/

/-- A field: its name as written, its name in lower case and its value. -/
structure HeaderField where
  name : ByteArray
  key : ByteArray
  value : ByteArray
deriving Inhabited

namespace HeaderField

def make (name value : ByteArray) : HeaderField := ⟨name, lowerBytes name, value⟩

def isAscii (f : HeaderField) : Bool :=
  Encoding.isAsciiBytes f.key && Encoding.isAsciiBytes f.value

end HeaderField

structure Headers where
  fields : List HeaderField := []
  /-- The encoding, once it is settled. -/
  encoding : Option Encoding := none
deriving Inhabited

namespace Headers

inductive Error where
  | notAscii (run : Text.ForeignRun)
  | undecodable
deriving Repr, DecidableEq, Inhabited

def Error.message : Error → String
  | notAscii run => run.message
  | undecodable => "the header fields cannot be decoded"

/-! ## Reading -/

/-- The encoding that reading settles on: ASCII if it suffices. -/
def readingEncoding (h : Headers) : Encoding :=
  h.encoding.getD (if h.fields.all HeaderField.isAscii then .ascii else .utf8)

/-- The fields after they have been read. -/
def settle (h : Headers) : Headers := { h with encoding := some h.readingEncoding }

/-- Names, in lower case, and values. -/
def items? (h : Headers) : Option (List (String × String)) :=
  h.fields.mapM fun f => do
    return (← h.readingEncoding.decode? f.key, ← h.readingEncoding.decode? f.value)

def items (h : Headers) : List (String × String) := h.items?.getD []

/-- The bytes of the names as written, as characters. -/
def rawNames (h : Headers) : List String := h.fields.map fun f => bytesAsText f.name

/-- The values of a name, joined by commas. The name is sought in the lower-case form of all letters. -/
def get? (h : Headers) (name : String) : Except Error (Option String) :=
  match h.readingEncoding.encode (String.ofList (Text.lower name.toList)) with
  | .error run => .error (.notAscii run)
  | .ok key =>
    match (h.fields.filter fun f => f.key.data = key.data).mapM fun f => h.readingEncoding.decode? f.value with
    | none => .error .undecodable
    | some [] => .ok none
    | some values => .ok (some (", ".intercalate values))

/-! ## Writing -/

/-- Encodes a field in ASCII, its name first. -/
def asciiField (item : String × String) : Except Error HeaderField :=
  match Encoding.ascii.encode item.1 with
  | .error run => .error (.notAscii run)
  | .ok name =>
    match Encoding.ascii.encode item.2 with
    | .error run => .error (.notAscii run)
    | .ok value => .ok (HeaderField.make name value)

/-- Fields given as texts, all in ASCII. -/
def ofItems (items : List (String × String)) : Except Error Headers :=
  match items.mapM asciiField with
  | .error e => .error e
  | .ok fields => .ok { fields }

/-- Appends a field. All names lose their upper case, and all fields have to be ASCII. -/
def add (h : Headers) (name value : String) : Except Error Headers :=
  match h.items? with
  | none => .error .undecodable
  | some items => ofItems (items ++ [(name, value)])

/-- Puts a field in the place of the first of its name and drops the others of that name; without one
it comes last. -/
def replace (f : HeaderField) : List HeaderField → List HeaderField
  | [] => [f]
  | g :: rest =>
    if g.key.data = f.key.data then f :: rest.filter (fun g => !decide (g.key.data = f.key.data))
    else g :: replace f rest

/-- Sets a field, in the settled encoding or else in UTF-8. -/
def set (h : Headers) (name value : String) : Except Error Headers :=
  let encoding := h.encoding.getD .utf8
  match encoding.encode name with
  | .error run => .error (.notAscii run)
  | .ok name =>
    match encoding.encode value with
    | .error run => .error (.notAscii run)
    | .ok value => .ok { h with fields := replace (HeaderField.make name value) h.fields }

end Headers

end HttpContract
