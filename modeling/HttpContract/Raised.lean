import HttpContract.Text.Quoted
import HttpContract.Text.Split

/-!
# Raised errors

Errors of collaborators: what a transport, a resolver, a module or an attribute may raise. Such an error has
a class, which is known by its name and by the names of the classes above it, and a text. What ends a whole
program, an exit or an interrupt, is no error here; what ends work on the loop, a cancellation, is one.
-/

namespace HttpContract

structure Raised where
  /-- The name of the class; with that of its module, unless it is a standard class or one of the loop. -/
  kind : String
  text : String
  /-- The names of the classes above, where they are no standard ones. -/
  above : List String := []
  /-- A file that the error is about, which is no part of its text. -/
  file : Option String := none
deriving Repr, DecidableEq, Inhabited

namespace Raised

/-- The class of the errors of an interface that cannot be compiled. -/
def definition : String := "HttpServiceDefinitionError"

/-- The names of the classes above a standard class, as far as programs tell them apart. -/
def standardAbove : String → List String
  | "ModuleNotFoundError" => ["ImportError"]
  | "UnboundLocalError" => ["NameError"]
  | "FrozenInstanceError" => ["AttributeError"]
  | "UnicodeError" | "JSONDecodeError" => ["ValueError"]
  | "UnicodeEncodeError" | "UnicodeDecodeError" | "UnicodeTranslateError" => ["UnicodeError", "ValueError"]
  | "ExchangeTimeoutError" => ["TimeoutError"]
  | _ => []

/-- The error is one of a class of the given name. -/
def isA (e : Raised) (name : String) : Bool :=
  e.kind == name || e.above.contains name || (standardAbove e.kind).contains name

/-- The name of the class alone. -/
def bareKind (e : Raised) : String := (Text.pieces '.' e.kind).getLast?.getD e.kind

def message (e : Raised) : String :=
  match e.file with
  | some file => e.text ++ ": " ++ Text.quote file
  | none => e.text

/-! ## Long numerals -/

/-- As many digits of a whole number are written. -/
def digitLimit : Nat := 4300

/-- The error of writing a whole number: it has more digits than are written. -/
def ofNumeral? (n : Int) : Option Raised :=
  if (Nat.toDigits 10 n.natAbs).length ≤ digitLimit then none
  else some
    { kind := "ValueError"
      text := "Exceeds the limit (" ++ toString digitLimit ++ " digits) for integer string conversion; "
        ++ "use sys.set_int_max_str_digits() to increase the limit" }

/-! ## Handing over

Work is done on one thread and asked for on another. What it raises is kept in a future in between, and a
few classes do not come out of it as they went in. -/

/-- The class by which work on the loop ends early. -/
def cancellation : String := "CancelledError"

def poolCancellation : String := "concurrent.futures.CancelledError"

def timeout : String := "TimeoutError"

def invalidState : String := "InvalidStateError"

def poolInvalidState : String := "concurrent.futures.InvalidStateError"

/-- The error as the future gives it: the classes of the pool become those of the loop, and a timeout is made
anew from its text alone. Work that ends by a cancellation leaves a cancelled future, which has nothing more
to tell. -/
def handedOver (e : Raised) : Raised :=
  if e.isA cancellation then { kind := poolCancellation, text := "" }
  else if e.kind = poolCancellation then { e with kind := cancellation, above := [], file := none }
  else if e.kind = timeout then { e with file := none }
  else if e.kind = poolInvalidState then { e with kind := invalidState, above := [], file := none }
  else e

end Raised

end HttpContract
