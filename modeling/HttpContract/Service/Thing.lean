import HttpContract.Service.Attributes
import HttpContract.Service.Interface
import HttpContract.Text.Cut

/-!
# Things and their attributes

An interface, its functions and values are things, and so are the attributes of a thing. `Thing.get`
follows a thing to one of its attributes: the members of an interface, what a function says about itself,
the declaration of either, and the standard attributes of the kind of thing.
-/

namespace HttpContract

inductive Thing where
  | interface (place : Nat)
  /-- A function; one that belongs to the interface itself is bound to the interface it is found in. -/
  | function (f : Function) (boundTo : Option Nat)
  | value (v : Value)
  /-- The class of the things of a kind, which is no interface. -/
  | cls (kind : String)
  /-- Anything else, of which only the kind is known. -/
  | other (kind : String)
deriving Repr, Inhabited

/-- Why a thing has no attribute of a name. -/
inductive MissingAttribute where
  | ofClass (owner name : String)
  | ofThing (kind name : String)
deriving Repr, DecidableEq, Inhabited

namespace MissingAttribute

/-- As many bytes of the name of a class are shown. -/
def shownBytes : Nat := 50

def shownOwner (owner : String) : String := String.ofList (Text.cutBytes shownBytes owner.toList)

def message : MissingAttribute → String
  | ofClass owner name => "type object '" ++ shownOwner owner ++ "' has no attribute '" ++ name ++ "'"
  | ofThing kind name => "'" ++ kind ++ "' object has no attribute '" ++ name ++ "'"

end MissingAttribute

/-- Why an attribute cannot be read. -/
inductive AccessError where
  | missing (e : MissingAttribute)
  /-- An error that reading it raises. -/
  | raised (e : Raised)
deriving Repr, DecidableEq, Inhabited

/-! ## Kinds -/

/-- The kind of what declares an exchange. -/
def Exchange.kindName : String := "HttpExchange"

/-- The kind of a function without a name. -/
def Callable.namelessKind : String := "functools.partial"

namespace Thing

/-- The attribute in which a thing keeps its name. -/
def nameAttribute : String := "__name__"

/-- The name of the class of a kind. -/
def className (kind : String) : String := (Text.pieces '.' kind).getLast?.getD kind

def ofDeclared? : Declared → Option Thing
  | .absent => none
  | .foreign => some (.value (.str ""))
  | .exchange _ => some (.other Exchange.kindName)

def ofText? (s : Option String) : Thing := .value ((s.map Value.str).getD .null)

/-- The thing of a standard attribute. -/
def ofKind (kind : String) : Thing := if kind = "NoneType" then .value .null else .other kind

def ofMember (place : Nat) : Member → Except AccessError Thing
  | .callable (.function f) => .ok (.function f (if f.fresh then some place else none))
  | .callable .nameless => .ok (.other Callable.namelessKind)
  | .value v => .ok (.value v)
  | .nested place => .ok (.interface place)
  | .faulty e => .error (.raised e)

/-! ## Classes -/

/-- The class above every class. -/
def classOfClasses : String := "type"

/-- The class of interfaces. -/
def classOfInterfaces : String := "_ProtocolMeta"

/-- The class of the class of a kind. -/
def classOf (kind : String) : String :=
  if kind = Interfaces.root then classOfInterfaces else classOfClasses

/-- The class next above that of a kind. -/
def baseOf (kind : String) : Thing :=
  match kind with
  | "object" => .value .null
  | "bool" => .cls "int"
  | "Protocol" => .cls "Generic"
  | "_ProtocolMeta" => .cls "ABCMeta"
  | "ABCMeta" => .cls "type"
  | _ => .cls "object"

/-- The classes that say which hints their attributes have. -/
def hintedClasses : List String := ["Protocol", "Generic", "_ProtocolMeta", "ABCMeta", "HttpExchange"]

/-- What a class says about an attribute of its things that leads to a kind. -/
def described (kind : String) : String :=
  match kind with
  | "method-wrapper" => "wrapper_descriptor"
  | "builtin_function_or_method" => "method_descriptor"
  | _ => "getset_descriptor"

def ofClassAttribute? (kind asked : String) : Option Thing :=
  match asked with
  | "__class__" => some (.cls (classOf kind))
  | "__base__" => some (baseOf kind)
  | "__annotations__" => if hintedClasses.contains kind then some (.other "dict") else none
  | _ =>
    ((Attributes.ofClass.leadsTo? asked).map ofKind).or
      ((Attributes.lookUp? kind asked).map fun found => ofKind (described found))

/-- The first function, by name, in the class of a kind, where an exchange would be declared. -/
def firstFunction? (kind : String) : Option String :=
  match kind with
  | "int" | "bool" | "float" => some "as_integer_ratio"
  | "str" | "bytes" => some "capitalize"
  | "list" => some "append"
  | "tuple" => some "count"
  | "dict" => some "clear"
  | "mappingproxy" | "frozenset" => some "copy"
  | "type" | "_ProtocolMeta" | "ABCMeta" => some "mro"
  | "code" => some "co_lines"
  | _ => none

/-! ## Attributes -/

/-- A standard attribute of a thing of a kind. -/
def standard? (kind asked : String) : Option Thing :=
  if asked = "__class__" then some (.cls kind) else (Attributes.lookUp? kind asked).map ofKind

/-- The kind that is told of a thing which lacks an attribute: a bound function hands on what it is asked
for. -/
def askedKind (kind : String) : String := if kind = "method" then "function" else kind

/-- The defaults of the parameters for which `p` holds. -/
def defaultsOf (f : Function) (p : FormalKind → Bool) (kind : String) : Thing :=
  ofKind (if f.formals.any fun x => x.default.isSome && p x.kind then kind else Value.null.kindName)

/-- What a function says about itself. -/
def ofFunctionAttribute? (f : Function) (asked : String) : Option Thing :=
  match asked with
  | "__name__" => some (.value (.str f.name))
  | "__qualname__" => some (.value (.str f.qualname))
  | "__doc__" => some (ofText? f.doc)
  | "__defaults__" => some (defaultsOf f (· != .named .keywordOnly) "tuple")
  | "__kwdefaults__" => some (defaultsOf f (· == .named .keywordOnly) "dict")
  | "__http_exchange__" => ofDeclared? f.declared
  | _ => none

/-- What a bound function says about itself. -/
def ofBoundAttribute? (place : Nat) (f : Function) (asked : String) : Option Thing :=
  match asked with
  | "__self__" => some (.interface place)
  | "__func__" => some (.function f none)
  | _ => ofFunctionAttribute? f asked

/-- What an interface says about itself. -/
def ofInterfaceAttribute? (is : Interfaces) (place : Nat) (asked : String) : Option Thing :=
  match asked with
  | "__name__" | "__qualname__" => some (.value (.str (is.nameAt place)))
  | "__class__" => some (.cls classOfInterfaces)
  | "__base__" =>
    some (((((is.list[place]?).map Interface.bases).getD []).head?).elim (.cls Interfaces.root) .interface)
  | "__http_exchange__" => (is.ancestry place).findSome? fun i => ofDeclared? i.declared
  | _ => (Attributes.ofInterface.leadsTo? asked).map ofKind

/-- The attribute of a thing. -/
def get (is : Interfaces) (owner : Thing) (asked : String) : Except AccessError Thing :=
  match owner with
  | .interface place =>
    match is.find? place asked with
    | some m => ofMember place m
    | none => orElse (ofInterfaceAttribute? is place asked) (.ofClass (is.nameAt place) asked)
  | .function f none =>
    orElse ((ofFunctionAttribute? f asked).or (standard? "function" asked)) (.ofThing "function" asked)
  | .function f (some place) =>
    orElse ((ofBoundAttribute? place f asked).or (standard? "method" asked)) (.ofThing "function" asked)
  | .value v => orElse (standard? v.kindName asked) (.ofThing v.kindName asked)
  | .cls kind => orElse (ofClassAttribute? kind asked) (.ofClass kind asked)
  | .other kind => orElse (standard? kind asked) (.ofThing (askedKind kind) asked)
where
  orElse (found : Option Thing) (e : MissingAttribute) : Except AccessError Thing :=
    match found with
    | some t => .ok t
    | none => .error (.missing e)

/-- The name that a thing has, when it is found under `asked`; a standard function is named for that. -/
def name (is : Interfaces) (asked : String) : Thing → Except MissingAttribute String
  | interface place => .ok (is.nameAt place)
  | function f _ => .ok f.name
  | cls kind => .ok (className kind)
  | value v => .error (.ofThing v.kindName nameAttribute)
  | other kind =>
    if (standard? kind nameAttribute).isSome then .ok asked else .error (.ofThing kind nameAttribute)

end Thing

end HttpContract
