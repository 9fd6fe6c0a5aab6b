import EditorBlocks.Markup.Location
import EditorBlocks.Text.Lowercase
/-!
Languages: the one that is declared for an element, and whether it lies in a range of languages.
-/

namespace EditorBlocks.Selector

/-- The language that an element itself declares. -/
def declaredLanguage? (tag : Tag) : Option String :=
  tag.attribute? (if tag.vocabulary = .html then "lang" else "xml:lang")

/-- The nearest language declared on the way up that is not empty; otherwise no language. -/
def languageOf : Location → String
  | .top _ => ""
  | .inside parent _ node _ =>
    match node.tag?.bind declaredLanguage? with
    | some language => if language.isEmpty then languageOf parent else language
    | none => languageOf parent

/-- Wildcards after the first part stand for nothing, but one at the end leaves an empty part. -/
def dropWildcards : List String → List String
  | [] => []
  | first :: rest =>
    let kept := rest.filter (· != "*")
    first :: (if rest.getLast? == some "*" then kept ++ [""] else kept)

/-- Whether the parts of a range are met in order; parts in between are skipped unless they have
one letter. -/
def partsMatch : (ranges parts : List String) → Bool
  | [], _ => true
  | _ :: _, [] => false
  | range :: ranges, part :: parts =>
    if range.isEmpty then false
    else if part == range then partsMatch ranges parts
    else if part.length == 1 then false
    else partsMatch (range :: ranges) parts

/-- Whether a language lies in a range, as extended filtering has it. -/
def inLanguageRange (range language : String) : Bool :=
  let parts := (Text.lower language).splitOn "-"
  match dropWildcards ((Text.lower range).splitOn "-"), parts with
  | [""], [""] => true
  | "*" :: ranges, part :: rest => !(rest.isEmpty && part.isEmpty) && partsMatch ranges rest
  | range :: ranges, part :: rest => range == part && partsMatch ranges rest
  | _, _ => false

end EditorBlocks.Selector
