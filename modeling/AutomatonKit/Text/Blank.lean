import AutomatonKit.Text.Range

/-!
# Blank characters and trimming

A character is *blank* when it has the Unicode property `White_Space`.  The property has 25
members: the ASCII controls from tab to carriage return and the space, the next-line control,
and the spaces and separators beyond ASCII.  The zero-width space is not one of them.

`trim` removes blanks from both ends of a text and leaves inner ones alone.
-/

namespace AutomatonKit.Text

/-- The characters with the Unicode property `White_Space`. -/
def blankRanges : CharRanges :=
  [(0x09, 0x0D), (0x20, 0x20), (0x85, 0x85), (0xA0, 0xA0), (0x1680, 0x1680), (0x2000, 0x200A),
   (0x2028, 0x2029), (0x202F, 0x202F), (0x205F, 0x205F), (0x3000, 0x3000)]

def isBlank (c : Char) : Bool :=
  blankRanges.contains c

def trimStart (s : List Char) : List Char :=
  s.dropWhile isBlank

def trimEnd (s : List Char) : List Char :=
  (s.reverse.dropWhile isBlank).reverse

/-- The text without the blanks at either end. -/
def trim (s : List Char) : List Char :=
  trimEnd (trimStart s)

end AutomatonKit.Text
