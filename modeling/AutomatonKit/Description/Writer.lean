import AutomatonKit.Automaton.Basic
import AutomatonKit.Description.Directive

/-!
# Writing a description

An automaton is written with one line for its states, one for its symbols, one for the start state,
one for the accepting states and one for each edge.  A line that would list nothing is left out.
Names are written as they were declared.

Not every automaton can be read back from its description: a name with a comma or an arrow breaks a
transition line, a name that begins with a label turns one into another directive, names that
differ only by case are taken for each other, and a symbol that is a comma or a blank disappears.
Blanks around a name are lost as well, and a line feed ends the line in the middle of a name.
-/

namespace AutomatonKit.Description

/-- The name of a state, empty for a number that is not registered. -/
def nameOf (d : Automaton) (id : StateId) : List Char :=
  ((d.state? id).map fun state => state.name.toList).getD []

/-- A labelled line that lists items, or no line if there are none. -/
def listLine (label : List Char) (items : List (List Char)) : List (List Char) :=
  if items.isEmpty then [] else [label ++ ' ' :: List.intercalate [',', ' '] items]

def transitionLine (d : Automaton) (t : Transition) : List Char :=
  nameOf d t.source ++ [',', ' ', t.symbol, ' ', '-', '>', ' '] ++ nameOf d t.target

/-- The lines that describe an automaton. -/
def writeLines (d : Automaton) : List (List Char) :=
  listLine statesLabel (d.states.map fun state => state.name.toList) ++
  listLine alphabetLabel (d.alphabet.symbols.map fun symbol => [symbol]) ++
  listLine startLabel (d.start.toList.map (nameOf d)) ++
  listLine acceptingLabel (d.accepting.ids.map (nameOf d)) ++
  d.transitions.map (transitionLine d)

/-- The characters of a description: each line ends with a line feed. -/
def writeChars (d : Automaton) : List Char :=
  (writeLines d).flatMap fun line => line ++ ['\n']

/-- The description of an automaton. -/
def write (d : Automaton) : String :=
  String.ofList (writeChars d)

end AutomatonKit.Description
