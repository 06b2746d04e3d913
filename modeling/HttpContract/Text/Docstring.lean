import HttpContract.Text.Blank
import HttpContract.Text.Split

/-!
# Documentation texts

`cleanDoc` removes from a documentation text the indentation that its lines after the first share, and
the empty lines at its ends.
-/

namespace HttpContract.Text

/-- Replaces tabs by spaces up to the next multiple of eight columns; a line break starts a new line. -/
def expandTabs (column : Nat) : List Char → List Char
  | [] => []
  | c :: rest =>
    if c = '\t' then
      List.replicate (8 - column % 8) ' ' ++ expandTabs (column + (8 - column % 8)) rest
    else if c = '\n' || c = '\r' then c :: expandTabs 0 rest
    else c :: expandTabs (column + 1) rest

/-- The smallest indentation among the lines that are not blank. -/
def margin? (ls : List (List Char)) : Option Nat :=
  ((ls.filter fun l => !l.all isBlank).map fun l => (l.takeWhile isBlank).length).min?

def dropEmptyEnds (ls : List (List Char)) : List (List Char) :=
  ((ls.reverse.dropWhile List.isEmpty).reverse).dropWhile List.isEmpty

def cleanDoc (s : String) : String :=
  match splitOn '\n' (expandTabs 0 s.toList) with
  | [] => ""
  | first :: rest =>
    String.ofList (joinWith '\n' (dropEmptyEnds
      (trimStart first :: rest.map (List.drop ((margin? rest).getD 0)))))

end HttpContract.Text
