import AutomatonKit.Json.Value
import AutomatonKit.Text.Split

/-!
# Reading JSON

`read` reads a text that holds one JSON value, with gaps around it if need be.  The grammar is the
strict one: no comments, no comma before a closing bracket, no leading zeros, no controls inside
strings.

The functions below take a text apart from the left and answer what they have read together with the
rest of the text.  Those that call each other are given a number of nested calls that they may use
up.  Of two nested calls at least one follows a character that has been read, so a little more than
twice the length of the text is enough.
-/

namespace AutomatonKit.Json

open Text (afterLabel)

/-! ### Strings -/

/-- A part of a string as it is written. -/
inductive Piece where
  /-- A character, written as itself or by a short escape. -/
  | char (c : Char)
  /-- A UTF-16 unit, written by four hexadecimal digits. -/
  | codeUnit (n : Nat)

def hexValue? (c : Char) : Option Nat :=
  if '0' ≤ c ∧ c ≤ '9' then some (c.toNat - 48)
  else if 'a' ≤ c ∧ c ≤ 'f' then some (c.toNat - 87)
  else if 'A' ≤ c ∧ c ≤ 'F' then some (c.toNat - 55)
  else none

/-- The UTF-16 unit of four hexadecimal digits. -/
def codeUnit? (a b c d : Char) : Option Piece := do
  let a ← hexValue? a
  let b ← hexValue? b
  let c ← hexValue? c
  let d ← hexValue? d
  return .codeUnit (((a * 16 + b) * 16 + c) * 16 + d)

/-- The character of a short escape. -/
def shortEscape? (c : Char) : Option Piece :=
  if c = '"' ∨ c = '\\' ∨ c = '/' then some (.char c)
  else if c = 'b' then some (.char '\x08')
  else if c = 'f' then some (.char '\x0c')
  else if c = 'n' then some (.char '\n')
  else if c = 'r' then some (.char '\r')
  else if c = 't' then some (.char '\t')
  else none

/-- The character that stands for itself in a string. -/
def plainChar? (c : Char) : Option Piece :=
  if c.toNat < 0x20 ∨ c = '\\' then none else some (.char c)

/-- Puts a piece before those that are read after it. -/
def addPiece (piece : Option Piece) (rest : Option (List Piece × List Char)) :
    Option (List Piece × List Char) := do
  let piece ← piece
  let (pieces, rest) ← rest
  return (piece :: pieces, rest)

/-- Reads the pieces of a string up to its closing mark. -/
def readPieces : List Char → Option (List Piece × List Char)
  | [] => none
  | '"' :: rest => some ([], rest)
  | '\\' :: 'u' :: a :: b :: c :: d :: rest => addPiece (codeUnit? a b c d) (readPieces rest)
  | '\\' :: c :: rest => addPiece (shortEscape? c) (readPieces rest)
  | c :: rest => addPiece (plainChar? c) (readPieces rest)

/-- Whether a UTF-16 unit is the first half of a surrogate pair. -/
def isHighSurrogate (n : Nat) : Bool :=
  decide (0xD800 ≤ n) && decide (n ≤ 0xDBFF)

/-- Whether a UTF-16 unit is the second half of a surrogate pair. -/
def isLowSurrogate (n : Nat) : Bool :=
  decide (0xDC00 ≤ n) && decide (n ≤ 0xDFFF)

/-- The character of a surrogate pair. -/
def joinSurrogates (high low : Nat) : Char :=
  Char.ofNat (0x10000 + (high - 0xD800) * 0x400 + (low - 0xDC00))

/-- The characters that pieces stand for.  There are none if a surrogate is not part of a pair. -/
def joinPieces : List Piece → Option (List Char)
  | [] => some []
  | .char c :: rest => (joinPieces rest).map (c :: ·)
  | .codeUnit n :: rest =>
    -- a first half has to be followed by a second half, and both have to be escapes
    if isHighSurrogate n then
      match rest with
      | .codeUnit m :: rest =>
        if isLowSurrogate m then (joinPieces rest).map (joinSurrogates n m :: ·) else none
      | _ => none
    else if isLowSurrogate n then none
    else (joinPieces rest).map (Char.ofNat n :: ·)

/-- Reads a string after its opening mark.  The inner answer is missing if the string has an
unpaired surrogate. -/
def readString (s : List Char) : Option (Option String × List Char) := do
  let (pieces, rest) ← readPieces s
  return ((joinPieces pieces).map String.ofList, rest)

/-! ### Numbers -/

/-- The leading decimal digits of a text and what follows them. -/
def digits (s : List Char) : List Char × List Char :=
  (s.takeWhile Char.isDigit, s.dropWhile Char.isDigit)

/-- Reads the digits before the decimal point: at least one, and no zero before others. -/
def readWhole (s : List Char) : Option (List Char × List Char) :=
  match digits s with
  | ([], _) => none
  | ('0' :: _ :: _, _) => none
  | (whole, rest) => some (whole, rest)

/-- Reads a decimal point and the digits after it, if there is a point.  The answer tells whether
there was one. -/
def readFraction (s : List Char) : Option (Bool × List Char) :=
  match s with
  | '.' :: rest =>
    match digits rest with
    | ([], _) => none
    | (_, rest) => some (true, rest)
  | _ => some (false, s)

def skipSign (s : List Char) : List Char :=
  match s with
  | '+' :: rest => rest
  | '-' :: rest => rest
  | _ => s

/-- Reads an exponent, if there is one.  The answer tells whether there was. -/
def readExponent (s : List Char) : Option (Bool × List Char) :=
  match s with
  | c :: rest =>
    if c = 'e' ∨ c = 'E' then
      match digits (skipSign rest) with
      | ([], _) => none
      | (_, rest) => some (true, rest)
    else some (false, s)
  | [] => some (false, s)

/-- Reads a number without a sign.  It is a natural number if there is neither a fraction nor an
exponent. -/
def readUnsigned (s : List Char) : Option (Value × List Char) := do
  let (whole, rest) ← readWhole s
  let (hasFraction, rest) ← readFraction rest
  let (hasExponent, rest) ← readExponent rest
  if hasFraction || hasExponent then return (.foreign, rest)
  else return (.number (Nat.ofDigitChars 10 whole 0), rest)

def readNumber (s : List Char) : Option (Value × List Char) :=
  match s with
  | '-' :: rest => (readUnsigned rest).map fun (_, rest) => (.foreign, rest)
  | _ => readUnsigned s

/-! ### Values -/

/-- Reads the end of a literal. -/
def readLiteral (ending : List Char) (v : Value) (s : List Char) : Option (Value × List Char) :=
  (afterLabel ending s).map fun rest => (v, rest)

/-- Reads a key, after its opening mark, and the colon behind it. -/
def readKey (s : List Char) : Option (Option String × List Char) := do
  let (key, rest) ← readString s
  match skipGap rest with
  | ':' :: rest => return (key, rest)
  | _ => none

/-- Puts a member before those that are read after it.  A key that is no text spoils the object. -/
def addMember (key : Option String) (value : Value) (rest : Option (List (String × Value))) :
    Option (List (String × Value)) := do
  let key ← key
  let rest ← rest
  return (key, value) :: rest

/-- The object of the members read, or a foreign value if a key is no text. -/
def objectOf (members : Option (List (String × Value))) : Value :=
  match members with
  | some members => .object members
  | none => .foreign

mutual

def readValue : Nat → List Char → Option (Value × List Char)
  | 0, _ => none
  | fuel + 1, s =>
    match skipGap s with
    | [] => none
    | c :: rest =>
      if c = '[' then readArray fuel rest
      else if c = '\x7b' then readObject fuel rest
      else if c = '"' then
        (readString rest).map fun (s, rest) => ((s.map Value.string).getD .foreign, rest)
      else if c = 'n' then readLiteral ['u', 'l', 'l'] .null rest
      else if c = 't' then readLiteral ['r', 'u', 'e'] (.bool true) rest
      else if c = 'f' then readLiteral ['a', 'l', 's', 'e'] (.bool false) rest
      else readNumber (c :: rest)

def readArray : Nat → List Char → Option (Value × List Char)
  | 0, _ => none
  | fuel + 1, s =>
    match skipGap s with
    | ']' :: rest => some (.array [], rest)
    | rest => do
      let (item, rest) ← readValue fuel rest
      let (items, rest) ← readItems fuel rest
      return (.array (item :: items), rest)

/-- Reads the further items of an array and its end. -/
def readItems : Nat → List Char → Option (List Value × List Char)
  | 0, _ => none
  | fuel + 1, s =>
    match skipGap s with
    | ']' :: rest => some ([], rest)
    | ',' :: rest => do
      let (item, rest) ← readValue fuel rest
      let (items, rest) ← readItems fuel rest
      return (item :: items, rest)
    | _ => none

def readObject : Nat → List Char → Option (Value × List Char)
  | 0, _ => none
  | fuel + 1, s =>
    match skipGap s with
    | '\x7d' :: rest => some (.object [], rest)
    | '"' :: rest => do
      let (key, rest) ← readKey rest
      let (value, rest) ← readValue fuel rest
      let (members, rest) ← readMembers fuel rest
      return (objectOf (addMember key value members), rest)
    | _ => none

/-- Reads the further members of an object and its end. -/
def readMembers : Nat → List Char → Option (Option (List (String × Value)) × List Char)
  | 0, _ => none
  | fuel + 1, s =>
    match skipGap s with
    | '\x7d' :: rest => some (some [], rest)
    | ',' :: rest =>
      match skipGap rest with
      | '"' :: rest => do
        let (key, rest) ← readKey rest
        let (value, rest) ← readValue fuel rest
        let (members, rest) ← readMembers fuel rest
        return (addMember key value members, rest)
      | _ => none
    | _ => none

end

/-- Reads a text that holds one value. -/
def readChars (s : List Char) : Option Value :=
  -- a bracket or comma starts two nested calls at most, so this amount is never used up
  match readValue (2 * s.length + 1) s with
  | some (v, rest) => if (skipGap rest).isEmpty then some v else none
  | none => none

/-- Reads a text that holds one value. -/
def read (text : String) : Option Value :=
  readChars text.toList

end AutomatonKit.Json
