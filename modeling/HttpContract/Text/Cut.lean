/-!
# Cutting texts by their bytes

`cutBytes n s` is the start of a text that takes up at most `n` bytes. When the end of it falls within a
character, that character is replaced by U+FFFD.
-/

namespace HttpContract.Text

def cutBytes : Nat → List Char → List Char
  | _, [] => []
  | n, c :: rest =>
    if c.utf8Size ≤ n then c :: cutBytes (n - c.utf8Size) rest
    else if n = 0 then []
    else ['\ufffd']

end HttpContract.Text
