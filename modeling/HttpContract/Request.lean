import HttpContract.Assoc
import HttpContract.Headers
import HttpContract.Hint.Basic
import HttpContract.Value
import HttpContract.Verb

/-!
# Requests

A request is filled by edits until it is complete; from then on every edit but completion is refused. An
edit that is refused leaves everything that can be observed as it was. A body is either a value or a
publisher of elements.
-/

namespace HttpContract

structure Request where
  verb : Option Verb := none
  /-- An address that takes the place of the template; the absent value when there is none. -/
  uri : Value := .null
  template : Option String := none
  urlVariables : Assoc String Value := []
  headers : Headers := {}
  query : Multimap String String := []
  cookies : Multimap String String := []
  body : Value := .null
  /-- The value whose elements are streamed as the body. -/
  publisher : Option Value := none
  elementType : Option Hint := none
  complete : Bool := false
deriving Inhabited

namespace Request

inductive Error where
  | complete
  | bodyIsPublisher
  | bodyIsValue
  | header (e : Headers.Error)
deriving Repr, DecidableEq, Inhabited

def Error.message : Error → String
  | complete => "HttpRequestSpec is complete; no further changes are allowed"
  | bodyIsPublisher => "Request body is already set to a publisher"
  | bodyIsValue => "Request body is already set to a value"
  | header e => e.message

/-! ## Edits -/

inductive Edit where
  | setVerb (v : Verb)
  | setUri (v : Value)
  | setTemplate (s : String)
  | setVariable (name : String) (v : Value)
  | addHeader (name value : String)
  | setHeader (name value : String)
  | addQuery (name value : String)
  | addCookie (name value : String)
  | setBody (v : Value)
  | setPublisher (elements : Value) (elementType : Hint)
deriving Inhabited

/-- The request after its header fields have been read. -/
def readHeaders (r : Request) : Request := { r with headers := r.headers.settle }

/-- Adding a field reads the fields there are, if any. -/
def addHeader (name value : String) (r : Request) : Except Error Unit × Request :=
  match r.headers.add name value with
  | .ok headers => (.ok (), { r with headers })
  | .error e => (.error (.header e), if r.headers.fields.isEmpty then r else r.readHeaders)

def setHeader (name value : String) (r : Request) : Except Error Unit × Request :=
  match r.headers.set name value with
  | .ok headers => (.ok (), { r with headers })
  | .error e => (.error (.header e), r)

def setBody (v : Value) (r : Request) : Except Error Unit × Request :=
  if r.publisher.isSome then (.error .bodyIsPublisher, r) else (.ok (), { r with body := v })

def setPublisher (elements : Value) (elementType : Hint) (r : Request) :
    Except Error Unit × Request :=
  if r.body.isNull then
    (.ok (), { r with publisher := some elements, elementType := some elementType })
  else (.error .bodyIsValue, r)

/-- An edit of a request that is not complete. -/
def editOpen (r : Request) : Edit → Except Error Unit × Request
  | .setVerb v => (.ok (), { r with verb := some v })
  | .setUri v => (.ok (), { r with uri := v })
  | .setTemplate s => (.ok (), { r with template := some s })
  | .setVariable name v => (.ok (), { r with urlVariables := r.urlVariables.put name v })
  | .addHeader name value => r.addHeader name value
  | .setHeader name value => r.setHeader name value
  | .addQuery name value => (.ok (), { r with query := r.query.add name value })
  | .addCookie name value => (.ok (), { r with cookies := r.cookies.add name value })
  | .setBody v => r.setBody v
  | .setPublisher elements elementType => r.setPublisher elements elementType

def edit (r : Request) (e : Edit) : Except Error Unit × Request :=
  if r.complete then (.error .complete, r) else r.editOpen e

/-- Edits in order, up to the first that is refused. -/
def editAll : List Edit → Request → Except Error Unit × Request
  | [], r => (.ok (), r)
  | e :: rest, r =>
    match r.edit e with
    | (.ok (), r) => editAll rest r
    | (.error err, r) => (.error err, r)

/-- Declares the request complete. -/
def finish (r : Request) : Request := { r with complete := true }

/-! ## Summary -/

/-- The address of the request: the absolute one unless it counts as false, else the template. -/
def target (r : Request) : Value :=
  if r.uri.isTruthy then r.uri else (r.template.map Value.str).getD .null

def summary (r : Request) : String :=
  "HttpRequestSpec(method=" ++ ((r.verb.map fun v => Value.str v.name).getD .null).literal
    ++ ", target=" ++ r.target.literal
    ++ ", complete=" ++ (Value.bool r.complete).literal ++ ")"

end Request

end HttpContract
