import HttpContract.Service.Thing

/-!
# Targets

A target `MODULE:CLASS` names a class: a module by its dotted name, and a path of attributes that starts
in the module and may lead through all kinds of things. The class at its end is an interface, or one that
declares nothing. Importing a module and reading an attribute run code of its own, which may raise any error.
-/

namespace HttpContract.CommandLine

/-- A module: interfaces and constants by name. -/
structure Module where
  name : String
  interfaces : Interfaces := {}
  constants : List (String × Value) := []
  /-- The error that reading the last attribute of a path raises, if it runs code that does. The import of the
  module is the path without attributes. -/
  raises? : List String → Option Raised := fun _ => none
deriving Inhabited

inductive TargetError where
  | malformed (target : String)
  /-- A name that starts with a dot is relative to nothing. -/
  | relative (name : String)
  | noModule (name : String)
  | noSubmodule (name parent : String)
  | noModuleAttribute (module name : String)
  | noAttribute (e : MissingAttribute)
  | notClass (target : String)
  | raised (e : Raised)
deriving Repr, DecidableEq, Inhabited

def TargetError.ofAccess : AccessError → TargetError
  | .missing e => noAttribute e
  | .raised e => raised e

def TargetError.message : TargetError → String
  | malformed target => "Expected MODULE:CLASS, got " ++ Text.quote target
  | relative name =>
    "the 'package' argument is required to perform a relative import for " ++ Text.quote name
  | noModule name => "No module named " ++ Text.quote name
  | noSubmodule name parent =>
    "No module named " ++ Text.quote name ++ "; " ++ Text.quote parent ++ " is not a package"
  | noModuleAttribute module name => "module '" ++ module ++ "' has no attribute '" ++ name ++ "'"
  | noAttribute e => e.message
  | notClass target => Text.quote target ++ " is not a class"
  | raised e => e.message

/-! ## Modules -/

/-- Looks a module up by the parts of its name, last part first. A part that is missing is reported with
the shortest name that fails. -/
def findModule (modules : List Module) : List String → Except TargetError Module
  | [] => .error (.noModule "")
  | last :: before =>
    let name := ".".intercalate (last :: before).reverse
    match modules.find? fun m => m.name = name with
    | some m =>
      match m.raises? [] with
      | some e => .error (.raised e)
      | none => .ok m
    | none =>
      if before.isEmpty then .error (.noModule name)
      else
        match findModule modules before with
        | .ok parent => .error (.noSubmodule name parent.name)
        | .error e => .error e

def importModule (modules : List Module) (name : String) : Except TargetError Module :=
  if name.toList.head? = some '.' then .error (.relative name)
  else findModule modules (Text.pieces '.' name).reverse

/-! ## Paths -/

namespace Module

/-- The last interface of a name. -/
def placeOf? (m : Module) (name : String) : Option Nat :=
  (m.interfaces.list.zipIdx.filterMap fun (i, place) =>
    if i.name = name then some place else none).getLast?

/-- What a module has under a name: an interface, a constant, or a standard attribute. -/
def find? (m : Module) (name : String) : Option Thing :=
  (((m.placeOf? name).map Thing.interface).or ((Assoc.get? m.constants name).map Thing.value)).or
    (if name = "__name__" then some (.value (.str m.name)) else Thing.standard? "module" name)

/-- The first attribute of a path. -/
def start (m : Module) (name : String) : Except TargetError Thing :=
  match m.raises? [name], m.find? name with
  | some e, _ => .error (.raised e)
  | none, some found => .ok found
  | none, none => .error (.noModuleAttribute m.name name)

/-- Follows a path of attributes from a thing that another path has led to. -/
def follow (m : Module) (behind : List String) (owner : Thing) : List String → Except TargetError Thing
  | [] => .ok owner
  | name :: rest =>
    match m.raises? (behind ++ [name]), owner.get m.interfaces name with
    | some e, _ => .error (.raised e)
    | none, .ok found => m.follow (behind ++ [name]) found rest
    | none, .error e => .error (.ofAccess e)

/-- What a path of attributes leads to; at the least, it is one empty name. -/
def lookUp (m : Module) : List String → Except TargetError Thing
  | [] => m.start ""
  | first :: rest => (m.start first).bind fun found => m.follow [first] found rest

end Module

/-! ## Targets -/

/-- The module name and the path of a target. -/
def splitTarget? (target : String) : Option (String × List String) :=
  match Text.cutAt? ':' target.toList with
  | none => none
  | some ([], _) => none
  | some (_, []) => none
  | some (module, path) => some (String.ofList module, Text.pieces '.' (String.ofList path))

/-- A class that can be described. -/
inductive Subject where
  | interface (place : Nat)
  /-- The class of the things of a kind. -/
  | cls (kind : String)
deriving Repr, DecidableEq, Inhabited

/-- The class that a thing is. -/
def Subject.ofThing? : Thing → Option Subject
  | .interface place => some (interface place)
  | .cls kind => some (cls kind)
  | _ => none

/-- The module of a target and the class at the end of its path. -/
def loadTarget (modules : List Module) (target : String) : Except TargetError (Module × Subject) :=
  match splitTarget? target with
  | none => .error (.malformed target)
  | some (name, path) =>
    match importModule modules name with
    | .error e => .error e
    | .ok m =>
      match m.lookUp path with
      | .error e => .error e
      | .ok thing =>
        match Subject.ofThing? thing with
        | some subject => .ok (m, subject)
        | none => .error (.notClass target)

end HttpContract.CommandLine
