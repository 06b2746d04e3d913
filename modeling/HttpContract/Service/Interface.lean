import HttpContract.Assoc
import HttpContract.Service.Function
import HttpContract.Service.Lineage

/-!
# Interfaces

An interface has members of its own and inherits those of its bases; a member found earlier in the
lineage hides later ones of its name. The methods of an interface are its members that can be called and
whose names do not start with an underscore.
-/

namespace HttpContract

/-- What can be called. -/
inductive Callable where
  | function (f : Function)
  /-- Has no name of its own. -/
  | nameless
deriving Repr, Inhabited

inductive Member where
  | callable (c : Callable)
  | value (v : Value)
  /-- Another interface, by its place. -/
  | nested (place : Nat)
  /-- Raises an error whenever it is read. -/
  | faulty (e : Raised)
deriving Repr, Inhabited

structure Interface where
  name : String
  /-- The places of the bases. -/
  bases : List Nat := []
  declared : Declared := .absent
  members : Assoc String Member := []
deriving Repr, Inhabited

namespace Member

def callable? : Member → Option Callable
  | callable c => some c
  | _ => none

/-- The error of reading a member that is asked for if there is one: then a missing attribute is none. -/
def fault? : Member → Option Raised
  | faulty e => if e.isA "AttributeError" then none else some e
  | _ => none

end Member

/-- Interfaces that may refer to earlier ones. -/
structure Interfaces where
  list : List Interface := []
deriving Repr, Inhabited

namespace Interfaces

/-! ## Lineages -/

def lineages (is : Interfaces) : List (Option (List Nat)) :=
  Lineage.extend [] (is.list.map Interface.bases)

/-- The places that are searched for the interface at a place. -/
def lineage (is : Interfaces) (place : Nat) : List Nat := (is.lineages[place]?).join.getD []

def ancestry (is : Interfaces) (place : Nat) : List Interface :=
  (is.lineage place).filterMap fun i => is.list[i]?

/-- The name of the interface at a place. -/
def nameAt (is : Interfaces) (place : Nat) : String := ((is.list[place]?).map Interface.name).getD ""

/-! ## Hierarchies -/

/-- Why an interface cannot be added to others. -/
inductive HierarchyError where
  /-- The name holds the null character. -/
  | nullInName
  | duplicateBase (name : String)
  /-- The bases contradict each other in their order; with those that block each other. -/
  | noOrder (names : List String)
deriving Repr, DecidableEq, Inhabited

def HierarchyError.message : HierarchyError → String
  | nullInName => "type name must not contain null characters"
  | duplicateBase name => "duplicate base class " ++ name
  | noOrder names =>
    "Cannot create a consistent method resolution\norder (MRO) for bases " ++ ", ".intercalate names

/-- The name of what is above every interface. -/
def root : String := "Protocol"

/-- The first place that occurs once more. -/
def repeated? : List Nat → Option Nat
  | [] => none
  | b :: rest => if rest.contains b then some b else repeated? rest

/-- The names that come first in what is left of some sequences, of which the last holds the bases
themselves. What is above every interface is a base too, the last of them, and comes first in every sequence
that has nothing else left. -/
def blocking (is : Interfaces) (left : List (List Nat)) : List String :=
  let heads := left.map List.head?
  let heads := heads.dropLast ++ none :: heads.getLast?.toList
  (heads.foldl (fun kept h => if kept.contains h then kept else kept ++ [h]) []).map fun h =>
    (h.map is.nameAt).getD root

/-- Adds an interface below earlier ones. -/
def add (is : Interfaces) (i : Interface) : Except HierarchyError Interfaces :=
  if i.name.contains '\x00' then .error .nullInName
  else
    match repeated? i.bases, Lineage.of is.lineages is.list.length i.bases with
    | some b, _ => .error (.duplicateBase (is.nameAt b))
    | none, .error left => .error (.noOrder (is.blocking left))
    | none, .ok _ => .ok ⟨is.list ++ [i]⟩

/-! ## Members -/

/-- The member of a name. -/
def find? (is : Interfaces) (place : Nat) (name : String) : Option Member :=
  (is.ancestry place).findSome? fun i => i.members.get? name

/-- Puts a name in its place in an increasing list without repetition. -/
def insertName (name : String) : List String → List String
  | [] => [name]
  | n :: rest =>
    if n = name then n :: rest
    else if name < n then name :: n :: rest
    else n :: insertName name rest

def isPublic (name : String) : Bool := name.toList.head? != some '_'

/-- The public names among the given ones, in increasing order. -/
def publicAmong (names : List String) : List String :=
  (names.filter isPublic).foldr insertName []

/-- The public names of an interface. -/
def publicNames (is : Interfaces) (place : Nat) : List String :=
  publicAmong ((is.ancestry place).flatMap fun i => i.members.map Prod.fst)

/-- The public names of the members that an interface adds itself. -/
def ownNames (is : Interfaces) (place : Nat) : List String :=
  publicAmong (((is.list[place]?).map fun i => i.members.map Prod.fst).getD [])

/-- The methods of an interface by name. -/
def exchangeMethods (is : Interfaces) (place : Nat) : List (String × Callable) :=
  (is.publicNames place).filterMap fun name =>
    ((is.find? place name).bind Member.callable?).map (name, ·)

/-- The error of going through the public members, which ends at the first that cannot be read. -/
def fault? (is : Interfaces) (place : Nat) : Option Raised :=
  (is.publicNames place).findSome? fun name => (is.find? place name).bind Member.fault?

/-! ## Declarations -/

/-- The declaration of an interface: its own, else the nearest one above it. -/
def findExchange (is : Interfaces) (place : Nat) : Option Exchange :=
  (is.ancestry place).findSome? fun i => i.declared.exchange?

/-- The declaration of a member. -/
def memberExchange (is : Interfaces) : Member → Option Exchange
  | .callable (.function f) => f.declared.exchange?
  | .nested place => is.findExchange place
  | _ => none

/-! ## Names -/

theorem mem_insertName {name n : String} {names : List String} :
    n ∈ insertName name names ↔ n = name ∨ n ∈ names := by
  induction names with
  | nil => simp [insertName]
  | cons m rest ih =>
    simp only [insertName]
    split
    · next h => subst h; simp
    · split
      · simp
      · simp [ih, or_left_comm]

theorem mem_publicAmong {n : String} {names : List String} :
    n ∈ publicAmong names ↔ n ∈ names ∧ isPublic n = true := by
  have h : ∀ ms : List String, n ∈ ms.foldr insertName [] ↔ n ∈ ms := by
    intro ms
    induction ms with
    | nil => simp
    | cons m ms ih => simp [mem_insertName, ih]
  simp [publicAmong, h]

end Interfaces

end HttpContract
