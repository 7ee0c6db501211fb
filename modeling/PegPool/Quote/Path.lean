/-!
# Paths

The path of a parameter file is kept without the parts that lead nowhere:
empty parts and single dots. What is left of nothing is the directory itself.
-/

namespace PegPool.Quote

/-- A path, cut into its parts. -/
structure Path where
  /-- The slashes before the first part: none, one, or exactly two. -/
  root : String
  parts : List String
  deriving DecidableEq, Repr

namespace Path

/-- The root that a number of leading slashes stands for. -/
def rootOf : Nat → String
  | 0 => ""
  | 2 => "//"
  | _ => "/"

/-- The texts between slashes. -/
def splitSlashes : List Char → List (List Char)
  | [] => [[]]
  | '/' :: rest => [] :: splitSlashes rest
  | c :: rest =>
    match splitSlashes rest with
    | part :: parts => (c :: part) :: parts
    | [] => [[c]]

/-- The path that a text writes. -/
def ofText (text : String) : Path where
  root := rootOf (text.toList.takeWhile (· == '/')).length
  parts :=
    ((splitSlashes text.toList).map String.ofList).filter fun part =>
      part ≠ "" ∧ part ≠ "."

/-- The text of a path. -/
def toText (path : Path) : String :=
  let text := path.root ++ String.intercalate "/" path.parts
  if text = "" then "." else text

/-! ## Following a path -/

/-- The most bytes of a path. -/
def maxSize : Nat := 4095

/-- The most bytes of one part. -/
def maxPartSize : Nat := 255

/-- What a path leads to. -/
inductive Target where
  | nothing
  | directory
  | file
  /-- The path, or a part of it that is looked up, is too long to be followed. -/
  | tooLong
  deriving DecidableEq, Repr

/-- What a path leads to from a directory with at most one file. Steps to the
directory above are always possible; whatever else is looked up first decides,
since nothing lies under a file. A null character is in no path. -/
def follow (path : Path) (file : Option String) : Target :=
  if path.toText.toList.contains '\x00' then .nothing
  else if maxSize < path.toText.utf8ByteSize then .tooLong
  else
    match path.parts.dropWhile (· == "..") with
    | [] => .directory
    | part :: _ =>
      if maxPartSize < part.utf8ByteSize then .tooLong
      else if path.root = "" ∧ path.parts = [part] ∧ file = some part then .file
      else .nothing

end Path

end PegPool.Quote
