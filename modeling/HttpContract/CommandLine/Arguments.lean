/-!
# Arguments of the command line

`[-v] describe TARGET [-f FORMAT]`. Options of the program stand before the command, those of the command
anywhere after it; `--` ends the options. An option that is not known, or that lacks its value, is
refused before help is given; help is given before anything else is looked at.
-/

namespace HttpContract.CommandLine

inductive Format where
  | text
  | json
deriving Repr, DecidableEq, Inhabited

def Format.ofName? : String → Option Format
  | "text" => some text
  | "json" => some json
  | _ => none

/-- What the arguments ask for. -/
inductive Action where
  | refuse
  | help
  | describe (verbose : Bool) (target : String) (format : Format)
deriving Repr, DecidableEq, Inhabited

/-- An argument that is meant as an option. -/
def isOption (arg : String) : Bool :=
  match arg.toList with
  | '-' :: _ :: _ => true
  | _ => false

/-! ## Options of the program -/

structure Preamble where
  verbose : Bool := false
  help : Bool := false
  rest : List String := []
deriving Repr, DecidableEq, Inhabited

/-- One or more letters `v` after a single dash. -/
def isVerboseCluster (arg : String) : Bool :=
  match arg.toList with
  | '-' :: c :: cs => (c :: cs).all (· == 'v')
  | _ => false

/-- Reads options up to the first argument that is none. -/
def readPreamble (p : Preamble) : List String → Option Preamble
  | [] => some { p with rest := [] }
  | arg :: rest =>
    if arg = "--" then some { p with rest }
    else if !isOption arg then some { p with rest := arg :: rest }
    else if arg = "--help" then readPreamble { p with help := true } rest
    else if arg = "--verbose" || isVerboseCluster arg then
      readPreamble { p with verbose := true } rest
    else none

/-! ## Options of the command -/

structure Given where
  help : Bool := false
  format : Option String := none
  positional : List String := []
deriving Repr, DecidableEq, Inhabited

/-- The value that is attached to an option for the format. -/
def attachedFormat? (arg : String) : Option String :=
  match arg.toList with
  | '-' :: 'f' :: value => some (String.ofList value)
  | '-' :: '-' :: 'f' :: 'o' :: 'r' :: 'm' :: 'a' :: 't' :: '=' :: value => some (String.ofList value)
  | _ => none

/-- Reads options and other arguments; the last format counts. -/
def readGiven (g : Given) : List String → Option Given
  | [] => some g
  | arg :: rest =>
    if arg = "--" then some { g with positional := g.positional ++ rest }
    else if !isOption arg then readGiven { g with positional := g.positional ++ [arg] } rest
    else if arg = "--help" then readGiven { g with help := true } rest
    else if arg = "--format" || arg = "-f" then
      match rest with
      | [] => none
      | value :: rest => readGiven { g with format := some value } rest
    else
      match attachedFormat? arg with
      | some value => readGiven { g with format := some value } rest
      | none => none

/-! ## The action -/

def describeAction (verbose : Bool) (args : List String) : Action :=
  match readGiven {} args with
  | none => .refuse
  | some g =>
    if g.help then .help
    else
      match Format.ofName? (g.format.getD "text"), g.positional with
      | some format, [target] => .describe verbose target format
      | _, _ => .refuse

/-- What stands in the place of the command and is none is read as options once more. -/
def unknownCommand (args : List String) : Action :=
  match readPreamble {} args with
  | some p => if p.help then .help else .refuse
  | none => .refuse

def action (args : List String) : Action :=
  match readPreamble {} args with
  | none => .refuse
  | some p =>
    if p.help then .help
    else
      match p.rest with
      | [] => .refuse
      | command :: rest =>
        if command = "describe" then describeAction p.verbose rest
        else unknownCommand (command :: rest)

end HttpContract.CommandLine
