import HttpContract.Exchange
import HttpContract.MediaType.Reader
import HttpContract.Request

/-!
# Request templates

A template is merged from the declarations of a method and of its interface: what the method declares
wins, and the fragments of the address are joined by one slash. Every call starts from a fresh request
built from the template.
-/

namespace HttpContract

structure Template where
  verb : Option Verb := none
  url : Option String := none
  contentType : Option MediaType := none
  accept : Option (List MediaType) := none
deriving Repr, DecidableEq, Inhabited

namespace Template

inductive Error where
  | verb (text : String)
  | contentType (e : MediaType.ParseError)
  | accept (e : MediaType.ParseError)
deriving Repr, DecidableEq, Inhabited

def Error.message : Error → String
  | verb text => "Invalid HTTP method " ++ Text.quote text
  | contentType e => "Invalid content type: " ++ e.message
  | accept e => "Invalid accept media type: " ++ e.message

/-! ## Merging -/

/-- What an optional declaration says in a field that holds text, blanks saying nothing. -/
def declared? (field : Exchange → String) (e : Option Exchange) : Option String :=
  match e with
  | none => none
  | some e => if Text.isBlankText (field e) then none else some (field e)

/-- The text of the method's declaration, else that of the interface's. -/
def effective? (field : Exchange → String) (method type : Option Exchange) : Option String :=
  (declared? field method).or (declared? field type)

/-- Two fragments with exactly one slash between them, when each has at most one there. -/
def joinFragments (a b : String) : String :=
  let front := a.toList
  let back := b.toList
  match front.getLast? == some '/', back.head? == some '/' with
  | true, true => a ++ String.ofList back.tail
  | false, false => a ++ "/" ++ b
  | _, _ => a ++ b

def url? (method type : Option Exchange) : Option String :=
  match declared? Exchange.url type, declared? Exchange.url method with
  | some a, some b => some (joinFragments a b)
  | some a, none => some a
  | none, b => b

def verb? (method type : Option Exchange) : Except Error (Option Verb) :=
  match effective? Exchange.method method type with
  | none => .ok none
  | some text =>
    match Verb.ofDeclared? text with
    | some v => .ok (some v)
    | none => .error (.verb text)

def contentType? (method type : Option Exchange) : Except Error (Option MediaType) :=
  match effective? Exchange.contentType method type with
  | none => .ok none
  | some text =>
    match MediaType.parse text with
    | .ok m => .ok (some m)
    | .error e => .error (.contentType e)

/-- The accepted types of an optional declaration; an empty list says nothing. -/
def acceptOf? (e : Option Exchange) : Option (List String) :=
  match e with
  | none => none
  | some e => if e.accept.isEmpty then none else some e.accept

def accept? (method type : Option Exchange) : Except Error (Option (List MediaType)) :=
  match (acceptOf? method).or (acceptOf? type) with
  | none => .ok none
  | some texts =>
    match MediaType.parseList texts with
    | .ok ms => .ok (some ms)
    | .error e => .error (.accept e)

/-- Merges the declarations of a method and of its interface. -/
def compile (method type : Option Exchange) : Except Error Template := do
  let verb ← verb? method type
  let contentType ← contentType? method type
  let accept ← accept? method type
  return { verb, url := url? method type, contentType, accept }

/-! ## Fresh requests -/

/-- The value of the field that lists accepted media types. -/
def acceptText (ms : List MediaType) : String := ", ".intercalate (ms.map MediaType.text)

/-- What a template says about a request. -/
def edits (t : Template) : List Request.Edit :=
  (t.verb.map Request.Edit.setVerb).toList ++ (t.url.map Request.Edit.setTemplate).toList
    ++ (t.contentType.map fun m => Request.Edit.setHeader "Content-Type" m.text).toList
    ++ (t.accept.map fun ms => Request.Edit.setHeader "Accept" (acceptText ms)).toList

/-- A fresh request with what the template declares. -/
def newRequest (t : Template) : Except Request.Error Unit × Request :=
  Request.editAll t.edits {}

/-! ## Summary -/

def optionText (m : Option MediaType) : String := (m.map MediaType.text).getD "None"

def summary (t : Template) : String :=
  let verb := (t.verb.map Verb.name).getD "-"
  let url := match t.url with
    | none => "-"
    | some url => if url.isEmpty then "-" else url
  let accept := match t.accept with
    | none => "None"
    | some ms => "[" ++ acceptText ms ++ "]"
  verb ++ " " ++ url ++ " content_type=" ++ optionText t.contentType ++ " accept=" ++ accept

end Template

end HttpContract
