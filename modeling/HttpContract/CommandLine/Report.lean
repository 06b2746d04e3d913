import HttpContract.CommandLine.Arguments
import HttpContract.CommandLine.Target
import HttpContract.Description
import HttpContract.Text.ControlSequence

/-!
# Reports of the command line

What a run of the program leaves: an exit code, the text for either stream, and the error that stopped
it, if one did.
-/

namespace HttpContract.CommandLine

/-! ## Obstacles -/

/-- What keeps a target from being described: it leads to no class, its class cannot be compiled, or the
description cannot be written. -/
inductive Obstacle where
  | target (e : TargetError)
  | interface (e : Failure)
  | rendering (e : Raised)
deriving Repr, Inhabited

def TargetError.kind : TargetError → ErrorKind
  | malformed _ | notClass _ => .wrongValue
  | relative _ => .other
  | noModule _ | noSubmodule .. => .missingModule
  | noModuleAttribute .. | noAttribute _ => .missingAttribute
  | raised e => e.errorKind

namespace Obstacle

def kind : Obstacle → ErrorKind
  | target e => e.kind
  | interface e => e.kind
  | rendering e => e.errorKind

def message : Obstacle → String
  | target e => e.message
  | interface e => e.message
  | rendering e => e.message

/-- What the program says of an obstacle, if it is of a kind that the program reports. -/
def reported? (o : Obstacle) : Option String :=
  match o.kind with
  | .definition => some ("invalid service interface: " ++ o.message)
  | .missingModule | .missingAttribute | .wrongValue => some o.message
  | .other => none

end Obstacle

/-! ## Reports -/

structure Report where
  exitCode : Nat
  output : String := ""
  errors : String := ""
  /-- An error that the program does not report itself. -/
  stoppedBy : Option Obstacle := none
deriving Repr, Inhabited

namespace Report

/-- Line ends are a single line feed. -/
def lineEnds : List Char → List Char
  | '\x0d' :: '\n' :: rest => '\n' :: lineEnds rest
  | c :: rest => c :: lineEnds rest
  | [] => []

def withLineEnds (s : String) : String := String.ofList (lineEnds s.toList)

/-- A text that may be shown on a terminal, on which it must not act. -/
def plain (s : String) : String := String.ofList (Text.withoutSequences s.toList)

/-- A success with its output. -/
def success (logged output : String) : Report :=
  { exitCode := 0, output := withLineEnds (plain (output ++ "\n")), errors := withLineEnds logged }

/-- A failure, after what was logged: it is reported on one line, or it stops the program. -/
def failure (logged : String) (o : Obstacle) : Report :=
  match o.reported? with
  | some message =>
    { exitCode := 1, errors := withLineEnds (logged ++ plain ("Error: " ++ message ++ "\n")) }
  | none => { exitCode := 1, errors := withLineEnds logged, stoppedBy := some o }

end Report

/-! ## Describing -/

/-- The records as lines, when they are wanted. -/
def logText (verbose : Bool) (records : List LogRecord) : String :=
  if verbose then String.join (records.map fun r => r.line ++ "\n") else ""

/-- An interface in the wanted format. -/
def render (format : Format) (service : String) (ds : List Description) : Except Raised String :=
  match format with
  | .text => .ok (Description.serviceText service ds)
  | .json => Description.serviceDocument service ds

/-- The descriptions of a class, with the records of its compilation. A class that is no interface has
none, but the functions that it has would have to be declared. -/
def describeSubject (m : Module) (scope : Scope) :
    Subject → Except Failure (List Description) × List LogRecord
  | .interface place => Description.describe m.interfaces scope .default place
  | .cls kind =>
    match Thing.firstFunction? kind with
    | some f => (.error (.definition (Thing.className kind ++ "." ++ f) .undeclared), [])
    | none => (.ok [], [])

def Subject.name (m : Module) : Subject → String
  | interface place => m.interfaces.nameAt place
  | cls kind => Thing.className kind

/-- The name and the descriptions of the class that a target leads to, with the records of its
compilation; `scope` is where hints given by name are looked up. -/
def descriptions (modules : List Module) (scope : Scope) (target : String) :
    Except Obstacle (String × List Description) × List LogRecord :=
  match loadTarget modules target with
  | .error e => (.error (.target e), [])
  | .ok (m, subject) =>
    let (ds, log) := describeSubject m scope subject
    ((ds.mapError .interface).map fun ds => (subject.name m, ds), log)

/-- Describes a target among the modules. -/
def describe (modules : List Module) (scope : Scope) (verbose : Bool) (target : String)
    (format : Format) : Report :=
  let (described, log) := descriptions modules scope target
  match described.bind fun (service, ds) => (render format service ds).mapError .rendering with
  | .ok output => .success (logText verbose log) output
  | .error o => .failure (logText verbose log) o

def usage : String := "Usage: http-interface [-v] describe MODULE:CLASS [-f text|json]\n"

/-- Runs the program with its arguments. -/
def run (modules : List Module) (scope : Scope) (args : List String) : Report :=
  match action args with
  | .refuse => { exitCode := 2, errors := usage }
  | .help => { exitCode := 0, output := usage }
  | .describe verbose target format => describe modules scope verbose target format

end HttpContract.CommandLine
