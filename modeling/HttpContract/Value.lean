import HttpContract.Number.Text
import HttpContract.Raised

/-!
# Values

The data that travels through a call: arguments, defaults, bodies, path variables and timeouts. A value
is shown as a literal, except that a text may also stand for itself. Long whole numbers are not shown, and
things may refuse it.
-/

namespace HttpContract

inductive Value where
  | null
  | bool (b : Bool)
  | int (n : Int)
  | float (x : Binary64)
  | str (s : String)
  | bytes (bs : List UInt8)
  | list (xs : List Value)
  | tuple (xs : List Value)
  | dict (entries : List (Value × Value))
  /-- A thing of which only the name is known, and the error that showing it raises, if any. -/
  | object (name : String) (fault : Option Raised := none)
deriving Repr, BEq, Inhabited

namespace Value

def isNull : Value → Bool
  | null => true
  | _ => false

/-- Zeros, empty texts and empty collections count as false, and so does the absent value. -/
def isTruthy : Value → Bool
  | null => false
  | bool b => b
  | int n => n != 0
  | float x => !x.isZero
  | str s => !s.isEmpty
  | bytes bs => !bs.isEmpty
  | list xs => !xs.isEmpty
  | tuple xs => !xs.isEmpty
  | dict entries => !entries.isEmpty
  | object .. => true

/-! ## Literals -/

mutual

/-- The value written as a literal. -/
def literal : Value → String
  | null => "None"
  | bool true => "True"
  | bool false => "False"
  | int n => toString n
  | float x => x.text
  | str s => Text.quote s
  | bytes bs => Text.quoteBytes bs
  | list xs => "[" ++ ", ".intercalate (literals xs) ++ "]"
  | tuple [x] => "(" ++ x.literal ++ ",)"
  | tuple xs => "(" ++ ", ".intercalate (literals xs) ++ ")"
  | dict entries => "\x7b" ++ ", ".intercalate (entryLiterals entries) ++ "\x7d"
  | object name _ => "<" ++ name ++ ">"

def literals : List Value → List String
  | [] => []
  | x :: xs => x.literal :: literals xs

def entryLiterals : List (Value × Value) → List String
  | [] => []
  | (k, v) :: rest => (k.literal ++ ": " ++ v.literal) :: entryLiterals rest

end

/-! ## Showing -/

mutual

/-- The first error on the way to the literal of a value. -/
def fault? : Value → Option Raised
  | int n => Raised.ofNumeral? n
  | list xs | tuple xs => faultAmong? xs
  | dict entries => faultAmongEntries? entries
  | object _ fault => fault
  | _ => none

def faultAmong? : List Value → Option Raised
  | [] => none
  | x :: xs => x.fault?.or (faultAmong? xs)

def faultAmongEntries? : List (Value × Value) → Option Raised
  | [] => none
  | (k, v) :: rest => (k.fault?.or v.fault?).or (faultAmongEntries? rest)

end

/-- The literal of a value, where nothing is in the way. -/
def shown (v : Value) : Except Raised String :=
  match v.fault? with
  | some e => .error e
  | none => .ok v.literal

/-- A text stands for itself, any other value is written as a literal. -/
def text : Value → String
  | str s => s
  | v => v.literal

/-! ## Numbers among values -/

def number? : Value → Option Binary64
  | bool b => some (Binary64.ofInt (if b then 1 else 0))
  | int n => some (Binary64.ofInt n)
  | float x => some x
  | _ => none

/-- The name of the kind of a value, as messages give it. -/
def kindName : Value → String
  | null => "NoneType"
  | bool _ => "bool"
  | int _ => "int"
  | float _ => "float"
  | str _ => "str"
  | bytes _ => "bytes"
  | list _ => "list"
  | tuple _ => "tuple"
  | dict _ => "dict"
  | object .. => "object"

/-! ## Durations -/

/-- Why a value cannot be written as a number of seconds. -/
inductive SecondsError where
  /-- A whole number beyond every other. -/
  | tooLarge
  /-- A text is not read as a number. -/
  | isText
  | noNumber (kind : String)
deriving Repr, DecidableEq, Inhabited

def SecondsError.message : SecondsError → String
  | tooLarge => "int too large to convert to float"
  | isText => "Unknown format code 'g' for object of type 'str'"
  | noNumber kind => "unsupported format string passed to " ++ kind ++ ".__format__"

/-- A duration in seconds: a number in six significant digits. -/
def seconds (v : Value) : Except SecondsError String :=
  match v, v.number? with
  | int _, some (.infinity _) => .error .tooLarge
  | _, some x => .ok x.general
  | str _, none => .error .isText
  | v, none => .error (.noNumber v.kindName)

end Value

end HttpContract
