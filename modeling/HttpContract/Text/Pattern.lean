/-!
# Patterns

A pattern is matched against the front of a text by trying one way after another: a choice tries its left
side first, a repetition one more round before none. `Pattern.ways` lists the ways that succeed in the
order in which they are tried, `Pattern.scan` and `Pattern.replace` go through a text from match to match.
-/

namespace HttpContract.Text

/-- What the groups of a pattern took, and what is left of the text. -/
structure Match where
  groups : List (String × List Char)
  rest : List Char
deriving Repr, DecidableEq, Inhabited

namespace Match

/-- What a group took last. -/
def group (m : Match) (name : String) : List Char := (m.groups.reverse.lookup name).getD []

/-- A match, and a match of what it left. -/
def andThen (m m' : Match) : Match := ⟨m.groups ++ m'.groups, m'.rest⟩

end Match

inductive Pattern where
  | one (kind : Char → Bool)
  | seq (p q : Pattern)
  | alt (p q : Pattern)
  | star (p : Pattern)
  | group (name : String) (p : Pattern)

namespace Pattern

instance : Append Pattern := ⟨seq⟩

def mark (c : Char) : Pattern := one (· = c)

def plus (p : Pattern) : Pattern := p ++ star p

/-! ## Matching the front of a text -/

/-- Rounds of a repetition, one more before none. A round that takes nothing does not count. -/
def rounds (ways : List Char → List Match) (s : List Char) : List Match :=
  (ways s).flatMap (fun m =>
    if _h : m.rest.length < s.length then (rounds ways m.rest).map m.andThen else []) ++ [⟨[], s⟩]
termination_by s.length

def ways : Pattern → List Char → List Match
  | one _, [] => []
  | one kind, c :: s => if kind c then [⟨[], s⟩] else []
  | seq p q, s => (ways p s).flatMap fun m => (ways q m.rest).map m.andThen
  | alt p q, s => ways p s ++ ways q s
  | star p, s => rounds (ways p) s
  | group name p, s =>
    (ways p s).map fun m =>
      { m with groups := m.groups ++ [(name, s.take (s.length - m.rest.length))] }

def first? (p : Pattern) (s : List Char) : Option Match := (p.ways s).head?

/-- The first way that takes the whole text. -/
def fullMatch? (p : Pattern) (s : List Char) : Option Match := (p.ways s).find? (·.rest.isEmpty)

/-! ## Going through a text -/

/-- The matches in a text from left to right. Where nothing matches, the next character is tried; a match
that takes nothing does not count. -/
def scan (p : Pattern) : List Char → List Match
  | [] => []
  | c :: s =>
    match p.first? (c :: s) with
    | none => scan p s
    | some m => if _h : m.rest.length ≤ s.length then m :: scan p m.rest else scan p s
termination_by s => s.length

/-- A text with every match in it replaced. -/
def replace (p : Pattern) (f : Match → List Char) : List Char → List Char
  | [] => []
  | c :: s =>
    match p.first? (c :: s) with
    | none => c :: replace p f s
    | some m =>
      if _h : m.rest.length ≤ s.length then f m ++ replace p f m.rest else c :: replace p f s
termination_by s => s.length

end Pattern

end HttpContract.Text
