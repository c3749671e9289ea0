import AutomatonKit.Text.CaseTable

/-!
# Lower-case text

`lowercase` is the full Unicode lower-case mapping of a text.  Nearly every character is mapped on
its own and to one character.  There are two exceptions: the capital I with a dot above becomes two
characters, and the capital sigma becomes a final sigma at the end of a word and an ordinary small
sigma elsewhere.
-/

namespace AutomatonKit.Text

/-- The simple lower-case form of a character: itself if it has none. -/
def lowerSimple (c : Char) : Char :=
  if c.toNat < 0x80 then c.toLower
  else
    match lowerCaseRanges.find? (·.contains c.toNat) with
    | some range => Char.ofNat (c.toNat + range.offset).toNat
    | none => c

/-- The lower-case form of a character that stands alone. -/
def lowerChar (c : Char) : List Char :=
  if c = 'İ' then ['i', '\u0307'] else [lowerSimple c]

/-- Whether the first character that is not `Case_Ignorable` is `Cased`. -/
def nextIsCased (s : List Char) : Bool :=
  match s.dropWhile caseIgnorableRanges.contains with
  | [] => false
  | c :: _ => casedRanges.contains c

/-- A capital sigma ends a word when a cased character precedes it and none follows it. -/
def endsWord (reversedBefore after : List Char) : Bool :=
  nextIsCased reversedBefore && !nextIsCased after

/-- Lower-cases a text of which the characters `reversedBefore`, nearest first, came before. -/
def lowercaseAfter (reversedBefore : List Char) : List Char → List Char
  | [] => []
  | c :: rest =>
    (if c = 'Σ' then [if endsWord reversedBefore rest then 'ς' else 'σ'] else lowerChar c) ++
      lowercaseAfter (c :: reversedBefore) rest

def lowercase (s : List Char) : List Char :=
  lowercaseAfter [] s

end AutomatonKit.Text
