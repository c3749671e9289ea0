/-!
# Binary codecs

The compact storage format is a plain sequence of bytes.  Numbers have a fixed width and begin with
the lowest byte; a string is its length in bytes followed by its bytes in UTF-8; a list is its
length followed by its items; an optional value is a byte 0, or a byte 1 and the value; a character
is its bytes in UTF-8.

Each kind of data has a function that writes it and one that reads it from the left of a byte
sequence.  A reader answers what it has read together with the rest, or nothing where the bytes do
not have the form that the writer produces.
-/

namespace AutomatonKit.Binary

/-- A sequence of bytes. -/
abbrev Bytes := List UInt8

/-! ### Numbers -/

/-- Writes the lowest `width` bytes of a number. -/
def putNat : Nat → Nat → Bytes
  | 0, _ => []
  | width + 1, n => UInt8.ofNat n :: putNat width (n / 256)

/-- Reads a number of `width` bytes. -/
def getNat : Nat → Bytes → Option (Nat × Bytes)
  | 0, bytes => some (0, bytes)
  | _ + 1, [] => none
  | width + 1, byte :: bytes => do
    let (n, rest) ← getNat width bytes
    return (byte.toNat + 256 * n, rest)

/-- Writes a number of eight bytes. -/
def putIndex (n : Nat) : Bytes :=
  putNat 8 n

/-- Reads a number of eight bytes. -/
def getIndex (bytes : Bytes) : Option (Nat × Bytes) :=
  getNat 8 bytes

/-- Writes a number of four bytes. -/
def putUInt32 (n : UInt32) : Bytes :=
  putNat 4 n.toNat

/-- Reads a number of four bytes. -/
def getUInt32 (bytes : Bytes) : Option (UInt32 × Bytes) := do
  let (n, rest) ← getNat 4 bytes
  return (UInt32.ofNat n, rest)

def putBool (b : Bool) : Bytes :=
  [if b then 1 else 0]

def getBool : Bytes → Option (Bool × Bytes)
  | [] => none
  | byte :: rest =>
    if byte = 0 then some (false, rest)
    else if byte = 1 then some (true, rest)
    else none

/-! ### Text -/

def putChar (c : Char) : Bytes :=
  String.utf8EncodeChar c

/-- Reads a character.  No character has more than four bytes. -/
def getChar (bytes : Bytes) : Option (Char × Bytes) := do
  let c ← (ByteArray.mk (bytes.take 4).toArray).utf8DecodeChar? 0
  return (c, bytes.drop c.utf8Size)

def putString (s : String) : Bytes :=
  putIndex s.utf8ByteSize ++ s.toUTF8.data.toList

def getString (bytes : Bytes) : Option (String × Bytes) := do
  let (size, rest) ← getIndex bytes
  if rest.length < size then none
  else
    let s ← String.fromUTF8? (ByteArray.mk (rest.take size).toArray)
    return (s, rest.drop size)

/-! ### Lists and optional values -/

def putItems {α : Type} (put : α → Bytes) (xs : List α) : Bytes :=
  xs.flatMap put

def getItems {α : Type} (get : Bytes → Option (α × Bytes)) :
    Nat → Bytes → Option (List α × Bytes)
  | 0, bytes => some ([], bytes)
  | count + 1, bytes => do
    let (x, rest) ← get bytes
    let (xs, rest) ← getItems get count rest
    return (x :: xs, rest)

def putList {α : Type} (put : α → Bytes) (xs : List α) : Bytes :=
  putIndex xs.length ++ putItems put xs

def getList {α : Type} (get : Bytes → Option (α × Bytes)) (bytes : Bytes) :
    Option (List α × Bytes) := do
  let (count, rest) ← getIndex bytes
  getItems get count rest

def putOption {α : Type} (put : α → Bytes) : Option α → Bytes
  | none => [0]
  | some x => 1 :: put x

def getOption {α : Type} (get : Bytes → Option (α × Bytes)) : Bytes → Option (Option α × Bytes)
  | [] => none
  | byte :: rest =>
    if byte = 0 then some (none, rest)
    else if byte = 1 then (get rest).map fun (x, rest) => (some x, rest)
    else none

end AutomatonKit.Binary
