import AutomatonKit.Automaton.Basic

/-!
# Building an automaton

Five operations build an automaton: register a state, choose the start state, make a state
accepting, add a symbol, and write a transition.  They never fail.  An operation that refers to a
state that is not registered changes nothing and answers `false`.

An `Edit` is one such call as a value, and `Automaton.edit` performs it.  `Automaton.edit?` is the
checked form for automata that were not built by edits: their table may lack the row of a
registered state, and then a transition cannot be written.
-/

namespace AutomatonKit

namespace Automaton

/-- Registers a state, which gets the next number and an empty row.  Another state may have the same
name. -/
def addState (d : Automaton) (state : State) : Automaton × StateId :=
  let id := d.stateCount
  ({ d with
      states := d.states ++ [state]
      table := d.table ++ [[]]
      accepting := if state.accepting then d.accepting.insert id else d.accepting },
    id)

/-- Makes a registered state the start state. -/
def setStart (d : Automaton) (id : StateId) : Automaton × Bool :=
  if d.contains id then ({ d with start := some id }, true) else (d, false)

/-- Makes a registered state accepting, both by its own flag and as a member of the set. -/
def addAccepting (d : Automaton) (id : StateId) : Automaton × Bool :=
  if d.contains id then
    ({ d with
        states := d.states.modify id fun state => { state with accepting := true }
        accepting := d.accepting.insert id },
      true)
  else (d, false)

def addSymbol (d : Automaton) (symbol : Char) : Automaton :=
  { d with alphabet := d.alphabet.insert symbol }

/-- Writes a target into a column of a row, which is first filled up with empty cells if it is too
short. -/
def writeCell (column : Nat) (target : StateId) (row : Row) : Row :=
  (row ++ List.replicate (column + 1 - row.length) none).set column (some target)

/-- Writes the transition from `source` on `symbol` to `target`, in place of an earlier one from
`source` on `symbol`.  The symbol joins the alphabet, unless a state is not registered. -/
def addTransition (d : Automaton) (source : StateId) (symbol : Char) (target : StateId) :
    Automaton × Bool :=
  if d.contains source && d.contains target then
    ({ d with
        alphabet := d.alphabet.insert symbol
        table := d.table.modify source (writeCell (d.alphabet.column symbol) target) },
      true)
  else (d, false)

end Automaton

/-- A call of one of the building operations. -/
inductive Edit where
  | addState (state : State)
  | setStart (id : StateId)
  | addAccepting (id : StateId)
  | addSymbol (symbol : Char)
  | addTransition (source : StateId) (symbol : Char) (target : StateId)
deriving DecidableEq

/-- What a building operation answers. -/
inductive Edit.Reply where
  /-- The number of the new state. -/
  | registered (id : StateId)
  /-- Whether the operation took effect. -/
  | applied (effect : Bool)
  | silent
deriving DecidableEq

namespace Automaton

def edit (d : Automaton) : Edit → Automaton × Edit.Reply
  | .addState state =>
    let (d, id) := d.addState state
    (d, .registered id)
  | .setStart id =>
    let (d, effect) := d.setStart id
    (d, .applied effect)
  | .addAccepting id =>
    let (d, effect) := d.addAccepting id
    (d, .applied effect)
  | .addSymbol symbol => (d.addSymbol symbol, .silent)
  | .addTransition source symbol target =>
    let (d, effect) := d.addTransition source symbol target
    (d, .applied effect)

def editAll (d : Automaton) (edits : List Edit) : Automaton :=
  edits.foldl (fun d e => (d.edit e).1) d

/-- Whether an edit writes into the table where it has no row. -/
def lacksRowFor (d : Automaton) : Edit → Bool
  | .addTransition source _ target =>
    d.contains source && d.contains target && decide (d.table.length ≤ source)
  | _ => false

/-- Performs one edit, unless the row that it writes into does not exist. -/
def edit? (d : Automaton) (e : Edit) : Option (Automaton × Edit.Reply) :=
  if d.lacksRowFor e then none else some (d.edit e)

end Automaton

end AutomatonKit
