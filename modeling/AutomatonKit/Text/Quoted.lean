import AutomatonKit.Text.Printable

/-!
# Quoted text

The form in which messages show names and symbols: between quotation marks, with a backslash
before the mark itself and before a backslash, short escapes for the null character, tab, carriage
return and line feed, and the code point in hexadecimal for every other character that has no
visible form of its own.  Strings stand between double marks and characters between single ones,
and only the mark in use is escaped.
-/

namespace AutomatonKit.Text

/-- The form of one character between marks `mark`. -/
def escape (mark c : Char) : List Char :=
  if c = '\x00' then ['\\', '0']
  else if c = '\t' then ['\\', 't']
  else if c = '\r' then ['\\', 'r']
  else if c = '\n' then ['\\', 'n']
  else if c = '\\' ∨ c = mark then ['\\', c]
  else if isShown c then [c]
  else ['\\', 'u', '\x7b'] ++ Nat.toDigits 16 c.toNat ++ ['\x7d']

def quote (s : String) : String :=
  String.ofList ('"' :: s.toList.flatMap (escape '"') ++ ['"'])

def quoteChar (c : Char) : String :=
  String.ofList ('\x27' :: escape '\x27' c ++ ['\x27'])

/-- A list of quoted characters between brackets. -/
def quoteChars (cs : List Char) : String :=
  "[" ++ ", ".intercalate (cs.map quoteChar) ++ "]"

end AutomatonKit.Text
