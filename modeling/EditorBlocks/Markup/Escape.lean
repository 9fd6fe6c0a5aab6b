/-!
Escaping of text and attribute values in HTML, by replacements in the whole text one after another.
The ampersand comes first, so that what is put in for the others is left alone.
-/

namespace EditorBlocks.Markup

/-- One replacement in a text, of a character by others. -/
def replacing (c : Char) (text : String) (cs : List Char) : List Char :=
  cs.flatMap fun x => if x = c then text.toList else [x]

/-- The replacements of a table, in its order. -/
def replacingAll (table : List (Char × String)) (cs : List Char) : List Char :=
  table.foldl (fun cs entry => replacing entry.1 entry.2 cs) cs

/-- Text: the ampersand, the no-break space and the two angle brackets are escaped. -/
def textEntities : List (Char × String) :=
  [('&', "&amp;"), ('\xa0', "&nbsp;"), ('<', "&lt;"), ('>', "&gt;")]

/-- Values in double quotes: the ampersand, the no-break space and the quote are escaped. -/
def valueEntities : List (Char × String) := [('&', "&amp;"), ('\xa0', "&nbsp;"), ('"', "&quot;")]

def escapeTextChars (cs : List Char) : List Char := replacingAll textEntities cs
def escapeValueChars (cs : List Char) : List Char := replacingAll valueEntities cs

def escapeText (s : String) : String := String.ofList (escapeTextChars s.toList)
def escapeAttribute (s : String) : String := String.ofList (escapeValueChars s.toList)

end EditorBlocks.Markup
