/-!
# JSON values

The values that records are stored as.  Numbers are naturals, because records hold no others.  A
number written in any other way, and a string or key with an unpaired surrogate, are legal JSON and
may stand where a value is ignored; such a value is `foreign`, and no record can be made of it.
-/

namespace AutomatonKit.Json

/-- A JSON value. -/
inductive Value where
  | null
  | bool (b : Bool)
  /-- A natural number in decimal digits. -/
  | number (n : Nat)
  | string (s : String)
  | array (items : List Value)
  /-- Named values, in the order of the text.  A name may occur more than once. -/
  | object (members : List (String × Value))
  /-- A legal value that no record holds. -/
  | foreign

instance : Inhabited Value := ⟨.null⟩

/-- A space, tab, line feed or carriage return may stand between the parts of a JSON text. -/
def isGap (c : Char) : Bool :=
  c == ' ' || c == '\t' || c == '\n' || c == '\r'

def skipGap (s : List Char) : List Char :=
  s.dropWhile isGap

end AutomatonKit.Json
