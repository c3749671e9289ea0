import AutomatonKit.Text.Blank

/-!
# Cutting text into pieces

`splitOn` cuts a text at every occurrence of a separator and keeps empty pieces; there is always
one piece more than there are separators.  `cutAt` and `cutArrow` cut only at the first comma (or
other character) and at the first arrow.  `tokens` is what a list of names is read with: the pieces
between commas, trimmed, without the empty ones.
-/

namespace AutomatonKit.Text

/-- The pieces of a text between the occurrences of `separator`.  A text without one is a single
piece, and the empty text is one empty piece. -/
def splitOn (separator : Char) : List Char → List (List Char)
  | [] => [[]]
  | c :: rest =>
    if c = separator then [] :: splitOn separator rest
    else
      match splitOn separator rest with
      | [] => [[c]]
      | piece :: pieces => (c :: piece) :: pieces

/-- What stands before and after the first `separator`, if there is one. -/
def cutAt (separator : Char) : List Char → Option (List Char × List Char)
  | [] => none
  | c :: rest =>
    if c = separator then some ([], rest)
    else (cutAt separator rest).map fun (before, after) => (c :: before, after)

/-- What stands before and after the first arrow `->`, if there is one. -/
def cutArrow : List Char → Option (List Char × List Char)
  | [] => none
  | '-' :: '>' :: rest => some ([], rest)
  | c :: rest => (cutArrow rest).map fun (before, after) => (c :: before, after)

def hasArrow (s : List Char) : Bool :=
  (cutArrow s).isSome

/-- What follows a label that the text begins with. -/
def afterLabel (label s : List Char) : Option (List Char) :=
  if label.isPrefixOf s then some (s.drop label.length) else none

/-- The trimmed, non-empty pieces of a comma-separated list. -/
def tokens (list : List Char) : List (List Char) :=
  ((splitOn ',' list).map trim).filter fun token => !token.isEmpty

/-- The lines of a text, with their numbers from 1. -/
def numberedLines (s : List Char) : List (List Char × Nat) :=
  (splitOn '\n' s).zipIdx 1

end AutomatonKit.Text
