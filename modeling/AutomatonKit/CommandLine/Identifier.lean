/-!
# Identifiers

A random identifier is made of sixteen random bytes, two of which have some bits fixed to say that
the rest is random.  It is written as hexadecimal digits in groups of 8, 4, 4, 4 and 12.
-/

namespace AutomatonKit.CommandLine

/-- The two hexadecimal digits of a byte. -/
def hexByte (byte : UInt8) : List Char :=
  [(byte.toNat / 16).digitChar, (byte.toNat % 16).digitChar]

/-- Fixes the bits of a byte that mark an identifier as random: the upper half of byte 6, and the
uppermost two bits of byte 8. -/
def markRandom (byte : UInt8) (index : Nat) : UInt8 :=
  if index = 6 then byte &&& 0x0F ||| 0x40
  else if index = 8 then byte &&& 0x3F ||| 0x80
  else byte

/-- The digits of a byte of an identifier, with a hyphen before those that begin a group. -/
def identifierPart (byte : UInt8) (index : Nat) : List Char :=
  (if index = 4 ∨ index = 6 ∨ index = 8 ∨ index = 10 then ['-'] else []) ++
    hexByte (markRandom byte index)

/-- The identifier of random bytes. -/
def identifier (random : List UInt8) : String :=
  String.ofList ((random.zipIdx.map fun (byte, index) => identifierPart byte index).flatten)

end AutomatonKit.CommandLine
