import HttpContract.Verb

/-!
# Exchange declarations

What an interface or one of its methods declares about its requests. Empty texts and lists declare
nothing. A thing may also carry something that is not a declaration in the place of one.
-/

namespace HttpContract

/-- A declaration, as written. -/
structure Exchange where
  url : String := ""
  method : String := ""
  contentType : String := ""
  accept : List String := []
deriving Repr, DecidableEq, Inhabited

/-- What stands in the place of the declaration. -/
inductive Declared where
  | absent
  | foreign
  | exchange (e : Exchange)
deriving Repr, DecidableEq, Inhabited

namespace Declared

def exchange? : Declared → Option Exchange
  | exchange e => some e
  | _ => none

end Declared

namespace Exchange

/-- A single accepted media type, given without a list; the empty text accepts nothing in particular. -/
def acceptOne (s : String) : List String := if s.isEmpty then [] else [s]

/-- The declaration with its verb fixed. -/
def withVerb (v : Verb) (e : Exchange) : Exchange := { e with method := v.name }

/-- A declaration that is named for its verb takes no other. -/
structure SecondVerb where
  verb : Verb
deriving Repr, DecidableEq, Inhabited

def SecondVerb.message (e : SecondVerb) : String :=
  e.verb.name.toLower ++ "_exchange() got an unexpected keyword argument 'method'"

/-- A declaration that is named for its verb, from what it says and the verb it is given besides. -/
def shortcut (v : Verb) (given : Option String) (e : Exchange) : Except SecondVerb Exchange :=
  match given with
  | some _ => .error ⟨v⟩
  | none => .ok (e.withVerb v)

end Exchange

end HttpContract
