import AutomatonKit.Json.Value

/-!
# Writing JSON

A value is written either compactly, without any gap, or indented, with each item on a line of its
own.  The two forms differ only in the gaps, which a `Layout` provides.  In both an empty array is
`[]` and an empty object is an empty pair of braces.

In a string the quotation mark and the backslash are escaped, and so are the controls below the
space: five of them by a letter and the others by their code in four hexadecimal digits.  All other
characters stand for themselves.
-/

namespace AutomatonKit.Json

/-- The gaps of a written value. -/
structure Layout where
  /-- What stands before an item, or a closing bracket, at a depth of nesting. -/
  newLine : Nat → List Char
  /-- What stands between a colon and the value after it. -/
  afterColon : List Char

def Layout.compact : Layout where
  newLine _ := []
  afterColon := []

/-- A line for each item, indented by two spaces for each level, and a space after a colon. -/
def Layout.indented : Layout where
  newLine depth := '\n' :: List.replicate (2 * depth) ' '
  afterColon := [' ']

/-- The written form of a character inside a string. -/
def escape (c : Char) : List Char :=
  if c = '"' then ['\\', '"']
  else if c = '\\' then ['\\', '\\']
  else if c = '\x08' then ['\\', 'b']
  else if c = '\x0c' then ['\\', 'f']
  else if c = '\n' then ['\\', 'n']
  else if c = '\r' then ['\\', 'r']
  else if c = '\t' then ['\\', 't']
  else if c.toNat < 0x20 then
    ['\\', 'u', '0', '0', (c.toNat / 16).digitChar, (c.toNat % 16).digitChar]
  else [c]

def writeString (s : String) : List Char :=
  '"' :: s.toList.flatMap escape ++ ['"']

mutual

/-- Writes a value that stands at a depth of nesting.  A foreign value is written as a negative
zero, which no record takes for a number. -/
def writeAt (layout : Layout) (depth : Nat) : Value → List Char
  | .null => ['n', 'u', 'l', 'l']
  | .bool true => ['t', 'r', 'u', 'e']
  | .bool false => ['f', 'a', 'l', 's', 'e']
  | .number n => Nat.toDigits 10 n
  | .string s => writeString s
  | .array [] => ['[', ']']
  | .array (item :: items) =>
    '[' :: layout.newLine (depth + 1) ++ writeAt layout (depth + 1) item ++
      writeItems layout depth items
  | .object [] => ['\x7b', '\x7d']
  | .object ((key, value) :: members) =>
    '\x7b' :: layout.newLine (depth + 1) ++ writeString key ++ ':' :: layout.afterColon ++
      writeAt layout (depth + 1) value ++ writeMembers layout depth members
  | .foreign => ['-', '0']

/-- Writes the further items of an array and its end. -/
def writeItems (layout : Layout) (depth : Nat) : List Value → List Char
  | [] => layout.newLine depth ++ [']']
  | item :: items =>
    ',' :: layout.newLine (depth + 1) ++ writeAt layout (depth + 1) item ++
      writeItems layout depth items

/-- Writes the further members of an object and its end. -/
def writeMembers (layout : Layout) (depth : Nat) : List (String × Value) → List Char
  | [] => layout.newLine depth ++ ['\x7d']
  | (key, value) :: members =>
    ',' :: layout.newLine (depth + 1) ++ writeString key ++ ':' :: layout.afterColon ++
      writeAt layout (depth + 1) value ++ writeMembers layout depth members

end

def write (layout : Layout) (v : Value) : String :=
  String.ofList (writeAt layout 0 v)

end AutomatonKit.Json
