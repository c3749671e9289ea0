/-!
# States and transitions

A state is known inside an automaton by its number, and to people by its name.  Names compare
exactly; that the textual notation looks them up regardless of case is a rule of the notation.
-/

namespace AutomatonKit

/-- The number of a state: states are numbered from 0 in the order of their registration. -/
abbrev StateId := Nat

/-- The form in which messages show the number of a state. -/
def StateId.label (id : StateId) : String :=
  "#" ++ toString id

/-- A named state. -/
structure State where
  /-- The name as it was declared. -/
  name : String
  /-- Whether an input that ends here is accepted. -/
  accepting : Bool := false
deriving DecidableEq

/-- One edge of an automaton. -/
structure Transition where
  source : StateId
  symbol : Char
  target : StateId
deriving DecidableEq

end AutomatonKit
