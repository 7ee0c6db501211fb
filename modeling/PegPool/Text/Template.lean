/-!
# Templates

A template is a text with named holes in braces. Holes are filled one after
the other. A filling is text like any other when the next hole is filled, so
the name of a later hole inside it is filled as well.
-/

namespace PegPool.Text

/-- A text in which each occurrence of a pattern is replaced, from left to
right; the first `skip` characters belong to an occurrence already replaced. -/
def replaceFrom (pattern replacement : List Char) : Nat → List Char → List Char
  | _, [] => []
  | skip + 1, _ :: rest => replaceFrom pattern replacement skip rest
  | 0, c :: rest =>
    if pattern.isPrefixOf (c :: rest) then
      replacement ++ replaceFrom pattern replacement (pattern.length - 1) rest
    else c :: replaceFrom pattern replacement 0 rest

/-- A template with one hole filled, wherever it occurs. -/
def fill (template hole filling : String) : String :=
  let pattern := '\x7b' :: hole.toList ++ ['\x7d']
  String.ofList (replaceFrom pattern filling.toList 0 template.toList)

end PegPool.Text
