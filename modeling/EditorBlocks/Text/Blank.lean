/-!
Blanks: the classes of spacing characters, trimming and collapsing.
-/

namespace EditorBlocks.Text

/-- The blanks that trimming removes: white space of every script and the separators U+001C to
U+001F. -/
def isBlank (c : Char) : Bool :=
  let n := c.toNat
  (9 ≤ n && n ≤ 13) || (28 ≤ n && n ≤ 32) || n == 0x85 || n == 0xA0 || n == 0x1680
    || (0x2000 ≤ n && n ≤ 0x200A) || n == 0x2028 || n == 0x2029 || n == 0x202F
    || n == 0x205F || n == 0x3000

/-- The spacing of markup: ASCII white space only, so that a no-break space is content. -/
def isSpacing (c : Char) : Bool :=
  c == ' ' || c == '\t' || c == '\n' || c == '\x0b' || c == '\x0c' || c == '\r'

/-- The spacing of HTML and selector syntax: as that of markup, but without the vertical tab. -/
def isSyntaxSpace (c : Char) : Bool :=
  c == ' ' || c == '\t' || c == '\n' || c == '\x0c' || c == '\r'

def trimList (cs : List Char) : List Char :=
  ((cs.dropWhile isBlank).reverse.dropWhile isBlank).reverse

/-- Removes the blanks at both ends. -/
def trim (s : String) : String := String.ofList (trimList s.toList)

/-- Writes one space for each run of spacing; `inRun` says that its space is already written. -/
def collapseFrom (inRun : Bool) : List Char → List Char
  | [] => []
  | c :: rest =>
    if isSpacing c then
      if inRun then collapseFrom true rest else ' ' :: collapseFrom true rest
    else c :: collapseFrom false rest

/-- Runs of spacing become one space, and blanks at the ends go. -/
def normalizeSpacing (s : String) : String :=
  String.ofList (trimList (collapseFrom false s.toList))

theorem isBlank_of_isSpacing {c : Char} (h : isSpacing c = true) : isBlank c = true := by
  simp only [isSpacing, Bool.or_eq_true, beq_iff_eq] at h
  rcases h with ((((h | h) | h) | h) | h) | h <;> subst h <;> decide

end EditorBlocks.Text
