/-!
# Log records

Records of compilation, of calls and of the background loop. A reader asks for the records from a level
on.
-/

namespace HttpContract

inductive LogLevel where
  | debug | info | warning | error
deriving Repr, DecidableEq, Inhabited

namespace LogLevel

def rank : LogLevel → Nat
  | debug => 10
  | info => 20
  | warning => 30
  | error => 40

def name : LogLevel → String
  | debug => "DEBUG"
  | info => "INFO"
  | warning => "WARNING"
  | error => "ERROR"

end LogLevel

inductive Logger where
  | compile | invoke | loop
deriving Repr, DecidableEq, Inhabited

def Logger.name : Logger → String
  | compile => "http_interface.compile"
  | invoke => "http_interface.invoke"
  | loop => "http_interface.loop"

structure LogRecord where
  logger : Logger
  level : LogLevel := .debug
  text : String
  service : Option String := none
  method : Option String := none
  operation : Option String := none
deriving Repr, DecidableEq, Inhabited

namespace LogRecord

/-- The records at a level or above it. -/
def atLeast (level : LogLevel) (records : List LogRecord) : List LogRecord :=
  records.filter fun r => level.rank ≤ r.level.rank

/-- A record on one line. -/
def line (r : LogRecord) : String := r.logger.name ++ ": " ++ r.text

end LogRecord

end HttpContract
