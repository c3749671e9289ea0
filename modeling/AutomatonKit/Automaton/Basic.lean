import AutomatonKit.Alphabet
import AutomatonKit.IdSet

/-!
# Deterministic finite automata

An automaton holds its states in the order of registration, an alphabet, a transition table, an
optional start state and the set of its accepting states.  The table has a row for each state.  A
row has a cell for each column of the alphabet up to the last one that the state uses; a missing
cell and an empty cell both mean that there is no transition.

The type itself admits tables that do not fit the states and numbers that name no state, because an
automaton can be read from stored text.  What is right with an automaton that was built by the
operations of `Automaton.Edit` is stated in `Automaton.Violation`.  All reads below are total:
a number or a symbol that names nothing has no name, no row and no successor.
-/

namespace AutomatonKit

/-- A transition row: the target for each column, or nothing where there is no transition. -/
abbrev Row := List (Option StateId)

/-- A deterministic finite automaton over characters. -/
structure Automaton where
  /-- The states in the order of their registration. -/
  states : List State
  /-- The symbols, whose order numbers the columns of the table. -/
  alphabet : Alphabet
  /-- The rows of transitions, in the order of the states. -/
  table : List Row
  start : Option StateId
  accepting : IdSet
deriving DecidableEq

namespace Automaton

def empty : Automaton where
  states := []
  alphabet := .empty
  table := []
  start := none
  accepting := .empty

instance : Inhabited Automaton := ⟨empty⟩

/-! ### States -/

def stateCount (d : Automaton) : Nat :=
  d.states.length

/-- Whether a number names a registered state. -/
def contains (d : Automaton) (id : StateId) : Bool :=
  decide (id < d.stateCount)

def state? (d : Automaton) (id : StateId) : Option State :=
  d.states[id]?

/-- The states with their numbers, in the order of registration. -/
def numberedStates (d : Automaton) : List (State × StateId) :=
  d.states.zipIdx

/-- The numbers of the registered states, ascending. -/
def ids (d : Automaton) : List StateId :=
  List.range d.stateCount

/-- The last registered state with exactly this name. -/
def findState? (d : Automaton) (name : String) : Option StateId :=
  (d.numberedStates.reverse.find? fun entry => entry.1.name == name).map (·.2)

def isAccepting (d : Automaton) (id : StateId) : Bool :=
  d.accepting.contains id

/-! ### Transitions -/

/-- The table row of a state, empty for a number without one. -/
def row (d : Automaton) (id : StateId) : Row :=
  d.table[id]?.getD []

/-- Where an automaton goes from a state on a symbol. -/
def successor (d : Automaton) (source : StateId) (symbol : Char) : Option StateId :=
  (d.alphabet.indexOf? symbol).bind fun column => ((d.row source)[column]?).join

/-- The edges that leave a state, as symbol and target, in the order of the columns.  A cell beyond
the alphabet has no symbol and gives no edge. -/
def outgoing (d : Automaton) (source : StateId) : List (Char × StateId) :=
  (d.row source).zipIdx.filterMap fun (cell, column) => do
    let symbol ← d.alphabet.symbolAt? column
    let target ← cell
    return (symbol, target)

/-- Whether the row of a state has any cell.  A row grows only when a transition is written into it,
so in a well-formed automaton this says that the state has an outgoing edge. -/
def hasOutgoing (d : Automaton) (source : StateId) : Bool :=
  !(d.row source).isEmpty

/-- All edges that leave registered states, by ascending source and column. -/
def transitions (d : Automaton) : List Transition :=
  d.ids.flatMap fun source => (d.outgoing source).map fun (symbol, target) =>
    ⟨source, symbol, target⟩

def transitionCount (d : Automaton) : Nat :=
  d.transitions.length

/-! ### Comparison -/

def sameTransitions (a b : Automaton) : Bool :=
  a.transitions.all b.transitions.contains && b.transitions.all a.transitions.contains

/-- Whether two automata are the same to an observer: the same states, start state and accepting
states, the same symbols and the same edges.  The order of the columns does not matter. -/
def sameAs (a b : Automaton) : Bool :=
  a.states == b.states && a.start == b.start && a.accepting == b.accepting &&
    a.alphabet.sameSymbols b.alphabet && sameTransitions a b

end Automaton

end AutomatonKit
