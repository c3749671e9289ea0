import AutomatonKit.Text.Blank
import AutomatonKit.Timestamp.Basic

/-!
# Reading timestamps

A timestamp is read from date, time of day and the offset of the clock from universal time, as in
`2024-02-29T23:59:60.5+01:00`.  The form is a relaxed one: blanks may stand before a number, a
separator or the offset, a number may have fewer digits, a small `t` or a space may part date and
time, and the offset is written as `Z`, `UTC` or a sign with hours and minutes, which need no colon
between them.  A year with more than four digits needs a sign.  Digits after the ninth place of the
fraction have no effect.

Each function takes a part from the left of a text and answers it together with the rest.
-/

namespace AutomatonKit.Timestamp

open Text (isBlank trimStart)

/-- Reads a number of at least one and at most `width` digits.  Blanks may stand before it. -/
def readNumber (width : Nat) (s : List Char) : Option (Nat × List Char) :=
  let s := trimStart s
  let digits := (s.take width).takeWhile Char.isDigit
  if digits.isEmpty then none else some (Nat.ofDigitChars 10 digits 0, s.drop digits.length)

/-- Reads digits of any number, of which there must be at least one, directly at the left end. -/
def readDigits (s : List Char) : Option (List Char × List Char) :=
  let digits := s.takeWhile Char.isDigit
  if digits.isEmpty then none else some (digits, s.dropWhile Char.isDigit)

/-- Reads a year: four digits at most, or any number of digits after a sign. -/
def readYear (s : List Char) : Option (Int × List Char) :=
  match trimStart s with
  | '-' :: rest => (readDigits rest).map fun (digits, rest) =>
    (-(Nat.ofDigitChars 10 digits 0 : Int), rest)
  | '+' :: rest => (readDigits rest).map fun (digits, rest) =>
    ((Nat.ofDigitChars 10 digits 0 : Int), rest)
  | rest => (readNumber 4 rest).map fun (year, rest) => ((year : Int), rest)

/-- Reads a given separator.  Blanks may stand before it. -/
def readSeparator (separator : Char) (s : List Char) : Option (List Char) :=
  match trimStart s with
  | c :: rest => if c = separator then some rest else none
  | [] => none

def readDate (s : List Char) : Option (Date × List Char) := do
  let (year, s) ← readYear s
  let s ← readSeparator '-' s
  let (month, s) ← readNumber 2 s
  let s ← readSeparator '-' s
  let (day, s) ← readNumber 2 s
  return (⟨year, month, day⟩, s)

/-- Reads what stands between date and time of day. -/
def readDivider (s : List Char) : Option (List Char) :=
  match s with
  | c :: rest => if c = 't' ∨ c = 'T' ∨ c = ' ' then some rest else none
  | [] => none

/-- The nanoseconds of the digits of a fraction. -/
def nanosecondsOf (digits : List Char) : Nat :=
  -- digits beyond the ninth are legal and have no effect
  let places := digits.take 9
  Nat.ofDigitChars 10 places 0 * Nat.pow 10 (9 - places.length)

/-- Reads the fraction of a second, if there is one, as nanoseconds. -/
def readFraction (s : List Char) : Option (Nat × List Char) :=
  match s with
  | '.' :: rest => (readDigits rest).map fun (digits, rest) => (nanosecondsOf digits, rest)
  | _ => some (0, s)

/-- Reads a time of day, which is put together with a date. -/
def readTime (date : Date) (s : List Char) : Option (Timestamp × List Char) := do
  let (hour, s) ← readNumber 2 s
  let s ← readSeparator ':' s
  let (minute, s) ← readNumber 2 s
  let s ← readSeparator ':' s
  let (second, s) ← readNumber 2 s
  let (nanosecond, s) ← readFraction s
  return ({ date, hour, minute, second, nanosecond }, s)

def readTwoDigits (s : List Char) : Option (Nat × List Char) :=
  match s with
  | a :: b :: rest =>
    if a.isDigit ∧ b.isDigit then some (Nat.ofDigitChars 10 [a, b] 0, rest) else none
  | _ => none

/-- Reads the hours and minutes of an offset, as minutes.  The offset is less than a day. -/
def readOffsetMinutes (s : List Char) : Option (Nat × List Char) := do
  let (hours, s) ← readTwoDigits s
  let (minutes, s) ← readTwoDigits (s.dropWhile fun c => c == ':' || isBlank c)
  if hours < 24 ∧ minutes < 60 then return (hours * 60 + minutes, s) else none

/-- Reads an offset, in minutes ahead of universal time.  The minus sign has two forms. -/
def readOffset (s : List Char) : Option (Int × List Char) :=
  match trimStart s with
  | [] => none
  | c :: rest =>
    if ((c :: rest).take 3).map Char.toUpper = ['U', 'T', 'C'] then some (0, rest.drop 2)
    else if c = 'Z' ∨ c = 'z' then some (0, rest)
    else if c = '+' then (readOffsetMinutes rest).map fun (minutes, s) => ((minutes : Int), s)
    else if c = '-' ∨ c = '−' then
      (readOffsetMinutes rest).map fun (minutes, s) => (-(minutes : Int), s)
    else none

/-- Reads a timestamp.  Both the date that is written and that of the moment in universal time have
to exist and to be in range. -/
def readChars (s : List Char) : Option Timestamp := do
  let (date, s) ← readDate s
  let s ← readDivider s
  let (shown, s) ← readTime date s
  let (ahead, s) ← readOffset s
  let moment := ofLocal shown ahead
  if (trimStart s).isEmpty && shown.isValid && moment.isValid then return moment else none

def read (text : String) : Option Timestamp :=
  readChars text.toList

end AutomatonKit.Timestamp
