import HttpContract.Text.Blank
import HttpContract.Text.Case

/-!
# HTTP verbs

The nine verbs. `Verb.ofName?` knows their exact names; `Verb.ofDeclared?` reads a declared verb, in any
case and between blanks.
-/

namespace HttpContract

inductive Verb where
  | connect | delete | get | head | options | patch | post | put | trace
deriving Repr, DecidableEq, Inhabited

namespace Verb

def name : Verb → String
  | connect => "CONNECT"
  | delete => "DELETE"
  | get => "GET"
  | head => "HEAD"
  | options => "OPTIONS"
  | patch => "PATCH"
  | post => "POST"
  | put => "PUT"
  | trace => "TRACE"

def all : List Verb := [connect, delete, get, head, options, patch, post, put, trace]

theorem mem_all (v : Verb) : v ∈ all := by cases v <;> decide

def ofName? (s : String) : Option Verb := all.find? fun v => v.name = s

theorem ofName?_name (v : Verb) : ofName? v.name = some v := by cases v <;> decide

theorem ofName?_eq_some_iff {s : String} {v : Verb} : ofName? s = some v ↔ s = v.name := by
  refine ⟨fun h => ?_, fun h => h ▸ ofName?_name v⟩
  simpa [eq_comm] using List.find?_some h

/-- The verb whose name is the upper-case form of the text between its outer blanks. -/
def ofDeclared? (s : String) : Option Verb := do
  ofName? (String.ofList (← Text.upperAscii? (Text.trim s.toList)))

end Verb

end HttpContract
