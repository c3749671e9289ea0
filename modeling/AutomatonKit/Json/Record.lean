import AutomatonKit.Json.Value

/-!
# Records in JSON

How typed data is taken out of a JSON value.  Every function answers nothing where the value has the
wrong form.

A record is stored as an object with a member for each field, or as an array of exactly its fields.
An object may have further members, which are ignored, but must not give a field twice.  A choice
among alternatives is stored as the bare name of the alternative, or as an object with one member,
whose name is that of the alternative and whose value is its content.
-/

namespace AutomatonKit.Json.Value

/-- The natural number of a value, if it is below a bound. -/
def nat? (bound : Nat) : Value → Option Nat
  | .number n => if n < bound then some n else none
  | _ => none

/-- The number of a state or a position, which has to fit into 64 bits. -/
def index? (v : Value) : Option Nat :=
  v.nat? UInt64.size

def bool? : Value → Option Bool
  | .bool b => some b
  | _ => none

def string? : Value → Option String
  | .string s => some s
  | _ => none

/-- The character of a value, which is stored as a string with nothing else in it. -/
def char? : Value → Option Char
  | .string s =>
    match s.toList with
    | [c] => some c
    | _ => none
  | _ => none

/-- The items of a value, each taken out by the same function. -/
def list? {α : Type} (item : Value → Option α) : Value → Option (List α)
  | .array items => items.mapM item
  | _ => none

/-- The content of a value where `null` stands for none. -/
def optional? {α : Type} (item : Value → Option α) : Value → Option (Option α)
  | .null => some none
  | v => (item v).map some

/-- A value where `null` stands for none. -/
def ofOption {α : Type} (item : α → Value) : Option α → Value
  | none => .null
  | some x => item x

def ofList {α : Type} (item : α → Value) (xs : List α) : Value :=
  .array (xs.map item)

def ofChar (c : Char) : Value :=
  .string (String.singleton c)

/-- The fields of a record, in the order of `keys`.  Only an object can lack some of them. -/
def fields? (keys : List String) : Value → Option (List (Option Value))
  | .array items => if items.length = keys.length then some (items.map some) else none
  | .object members =>
    if keys.all fun key => decide (members.countP (fun member => member.1 == key) ≤ 1) then
      some (keys.map fun key => members.lookup key)
    else none
  | _ => none

/-- The content of a field that may be missing, which counts as `null`. -/
def optionalField? {α : Type} (item : Value → Option α) : Option Value → Option (Option α)
  | none => some none
  | some v => v.optional? item

/-- The name of an alternative and its content, if there is any. -/
def variant? : Value → Option (String × Option Value)
  | .string name => some (name, none)
  | .object [(name, content)] => some (name, some content)
  | _ => none

/-- An alternative with content. -/
def ofVariant (name : String) (content : Value) : Value :=
  .object [(name, content)]

/-- Whether an alternative has no content.  A content of `null` is none. -/
def isBare : Option Value → Bool
  | none => true
  | some .null => true
  | some _ => false

end AutomatonKit.Json.Value
