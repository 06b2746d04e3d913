import HttpContract.Json
import HttpContract.Service.Client
import HttpContract.Text.Docstring

/-!
# Descriptions of interfaces

An interface is described by compiling its methods without a transport. There is one description to a
method, in the order of names. It can be written as text and, unless a default refuses, as a JSON document.
-/

namespace HttpContract

structure Description where
  name : String
  verb : Option Verb
  url : Option String
  contentType : Option String
  accept : List String
  operation : Operation
  /-- The type of the body, for operations that have one. -/
  bodyType : Option String
  returnAdapter : Option String
  blocking : Bool
  optional : Bool
  parameterTypes : List (String × String)
  parameterDefaults : List (String × Value)
  doc : Option String
deriving Repr, Inhabited

namespace Description

/-! ## Describing -/

/-- The documentation of a method, unless it is empty as written. -/
def docOf (doc : Option String) : Option String :=
  (doc.filter fun s => !s.isEmpty).map Text.cleanDoc

def ofMethod (m : Method) : Description where
  name := m.name
  verb := m.template.verb
  url := m.template.url
  contentType := m.template.contentType.map MediaType.text
  accept := (m.template.accept.getD []).map MediaType.text
  operation := m.plan.operation
  bodyType := if m.plan.operation.takesBodyType then some m.plan.bodyType.text else none
  returnAdapter := m.plan.returnAdapter.map Adapter.name
  blocking := m.plan.blocking
  optional := m.plan.blockForOptional
  parameterTypes := m.parameters.map fun p => (p.name, p.hint.text)
  parameterDefaults := m.parameters.filterMap fun p => p.default.map (p.name, ·)
  doc := docOf m.function.doc

/-- Puts a description before the first whose name is not smaller. -/
def insert (d : Description) : List Description → List Description
  | [] => [d]
  | e :: rest => if e.name < d.name then e :: insert d rest else d :: e :: rest

/-- Descriptions in the order of their names; those of one name keep their order. -/
def sort (ds : List Description) : List Description := ds.foldr insert []

/-- Describes the interface at a place, with the records of its compilation. -/
def describe (is : Interfaces) (scope : Scope) (registry : Registry) (place : Nat) :
    Except Failure (List Description) × List LogRecord :=
  let (methods, log) := is.compile scope registry Factory.defaultTimeout place
  (methods.map fun ms => sort (ms.map ofMethod), log)

/-! ## As text -/

def orDash (s : Option String) : String :=
  match s with
  | some s => if s.isEmpty then "-" else s
  | none => "-"

/-- A line when there is something to say. -/
def line (label : String) (content : Option String) : List String :=
  (content.map fun s => "    " ++ label ++ ": " ++ s).toList

def returns (d : Description) : String :=
  match d.returnAdapter with
  | some name => name
  | none => if d.optional then "blocking (optional)" else "blocking"

/-- Texts separated by commas, when there are any. -/
def listed (xs : List String) : Option String :=
  if xs.isEmpty then none else some (", ".intercalate xs)

def lines (d : Description) : List String :=
  ["  " ++ d.name ++ "  " ++ orDash (d.verb.map Verb.name) ++ " " ++ orDash d.url]
    ++ line "operation" (some d.operation.name)
    ++ line "body" d.bodyType
    ++ line "returns" (some d.returns)
    ++ line "content-type" d.contentType
    ++ line "accept" (listed d.accept)
    ++ line "params" (listed (d.parameterTypes.map fun p => p.1 ++ ": " ++ p.2))
    ++ line "doc" (d.doc.filter fun s => !s.isEmpty)
    ++ [""]

/-- An interface as text. -/
def serviceText (service : String) (ds : List Description) : String :=
  "\n".intercalate (["HTTP Service: " ++ service, ""] ++ ds.flatMap lines)

/-! ## As a document -/

/-- A default as data; what is no plain data is shown by its literal. -/
def jsonOfDefault : Value → Except Raised Json
  | .null => .ok .null
  | .bool b => .ok (.bool b)
  | .int n => .ok (.int n)
  | .float x => .ok (.float x)
  | .str s => .ok (.str s)
  | v => v.shown.map Json.str

def jsonOfOption (s : Option String) : Json := (s.map Json.str).getD .null

/-- A description with its defaults as data. -/
def jsonWith (d : Description) (defaults : List (String × Json)) : Json :=
  .object [
    ("name", .str d.name),
    ("http_method", jsonOfOption (d.verb.map Verb.name)),
    ("url", jsonOfOption d.url),
    ("content_type", jsonOfOption d.contentType),
    ("accept", .array (d.accept.map Json.str)),
    ("operation", .str d.operation.name),
    ("body_type", jsonOfOption d.bodyType),
    ("return_adapter", jsonOfOption d.returnAdapter),
    ("blocking", .bool d.blocking),
    ("optional", .bool d.optional),
    ("param_types", .object (d.parameterTypes.map fun p => (p.1, .str p.2))),
    ("param_defaults", .object defaults),
    ("doc", jsonOfOption d.doc)]

/-- A description as data, unless one of its defaults cannot be shown. -/
def toJson (d : Description) : Except Raised Json :=
  (d.parameterDefaults.mapM fun p => (jsonOfDefault p.2).map (p.1, ·)).map d.jsonWith

/-- An interface as data. -/
def serviceJson (service : String) (ds : List Description) : Except Raised Json :=
  (ds.mapM toJson).map fun methods => .object [("service", .str service), ("methods", .array methods)]

/-- An interface as a document. -/
def serviceDocument (service : String) (ds : List Description) : Except Raised String :=
  (serviceJson service ds).bind Json.written

end Description

end HttpContract
