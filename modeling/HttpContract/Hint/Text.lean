import HttpContract.Hint.Basic

/-!
# Hints as text

The compact form of a hint: `list[User]`, `User | None`, `AsyncIterator[Event]`. Annotations are left
out and the absent value is `None`, whether it stands for itself or for its class.
-/

namespace HttpContract

namespace Class

def text (c : Class) : String := if c = void then "None" else c.name

end Class

def HintForm.text : HintForm → String
  | union => "Union"
  | literal => "Literal"

namespace Hint

/-- A text in the place of a hint names one, and is shown without the module of hints before its name. -/
def unqualified (s : String) : String :=
  if s.startsWith "typing." then String.ofList (s.toList.drop "typing.".length) else s

mutual

/-- A value in the place of a hint. -/
def valueText : Value → String
  | .null => "None"
  | .list vs => "[" ++ ", ".intercalate (valueTexts vs) ++ "]"
  | v => unqualified v.text

def valueTexts : List Value → List String
  | [] => []
  | v :: vs => valueText v :: valueTexts vs

end

def bracketed (name : String) (args : List String) : String :=
  if args.isEmpty then name else name ++ "[" ++ ", ".intercalate args ++ "]"

mutual

def text : Hint → String
  | nothing => "None"
  | ellipsis => "..."
  | typeVar name => "~" ++ name
  | cls c => c.text
  | form f => f.text
  | generic c args => bracketed c.name (texts args)
  | union _ ms => " | ".intercalate (texts ms)
  | annotated inner _ => inner.text
  | literal vs => bracketed HintForm.literal.text (valueTexts vs)
  | callable none result => bracketed Class.callable.name ["...", result.text]
  | callable (some params) result =>
    bracketed Class.callable.name ["[" ++ ", ".intercalate (texts params) ++ "]", result.text]
  | sequence hs => "[" ++ ", ".intercalate (texts hs) ++ "]"
  | value v => valueText v
  | forward name => "ForwardRef(" ++ Text.quote name ++ ")"

def texts : List Hint → List String
  | [] => []
  | h :: hs => h.text :: texts hs

end

end Hint

end HttpContract
