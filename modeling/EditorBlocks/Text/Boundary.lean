/-!
Line boundaries of Unicode text: feeds, returns, the separators of files, groups and records, and the
line and paragraph separators.
-/

namespace EditorBlocks.Text

def isLineBoundary (c : Char) : Bool :=
  let n := c.toNat
  (10 ≤ n && n ≤ 13) || (28 ≤ n && n ≤ 30) || n == 0x85 || n == 0x2028 || n == 0x2029

/-- The lines of a text without their boundaries; a return with a feed is one boundary, and nothing
after the last boundary is no line. -/
def linesOf : List Char → List (List Char)
  | [] => []
  | '\r' :: '\n' :: rest => [] :: linesOf rest
  | c :: rest =>
    if isLineBoundary c then [] :: linesOf rest
    else match linesOf rest with
      | [] => [[c]]
      | line :: lines => (c :: line) :: lines

def splitLines (s : String) : List String := (linesOf s.toList).map String.ofList

/-- Text without line boundaries. -/
def isSingleLine (s : String) : Bool := s.toList.all fun c => !isLineBoundary c

end EditorBlocks.Text
