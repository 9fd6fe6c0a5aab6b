/-!
Line breaks of text files: a return, and a return with a feed, count as a feed.
-/

namespace EditorBlocks.Text

def unifyBreaks : List Char → List Char
  | '\r' :: '\n' :: rest => '\n' :: unifyBreaks rest
  | '\r' :: rest => '\n' :: unifyBreaks rest
  | c :: rest => c :: unifyBreaks rest
  | [] => []

end EditorBlocks.Text
