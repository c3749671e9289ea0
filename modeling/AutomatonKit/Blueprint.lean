import AutomatonKit.Automaton.Edit
import AutomatonKit.Text.Quoted

/-!
# Blueprints

A blueprint lists what an automaton shall consist of, by name.  Unlike a description it is strict:
names are compared exactly, each state is declared once, and every name that is referred to has to
be declared, before or after.  `Blueprint.build` makes the automaton or reports the first fault:
first a state that is declared twice, then the start state, the accepting states and the transitions
in the order in which they were called for.
-/

namespace AutomatonKit

/-- A transition between named states. -/
structure NamedTransition where
  source : String
  symbol : Char
  target : String
deriving DecidableEq

/-- What an automaton shall consist of. -/
structure Blueprint where
  states : List String := []
  /-- Symbols of the alphabet beside those of the transitions. -/
  symbols : List Char := []
  start : Option String := none
  accepting : List String := []
  transitions : List NamedTransition := []
deriving DecidableEq

/-- One call that adds to a blueprint. -/
inductive Blueprint.Call where
  | state (name : String)
  | symbol (symbol : Char)
  /-- Choose the start state, in place of an earlier choice. -/
  | start (name : String)
  | accepting (name : String)
  | transition (transition : NamedTransition)
deriving DecidableEq

/-- Why a blueprint cannot be built. -/
inductive Blueprint.Fault where
  | duplicateState (name : String)
  | unknownStart (name : String)
  | unknownAccepting (name : String)
  | unknownSource (name : String)
  | unknownTarget (name : String)
deriving DecidableEq

namespace Blueprint

def Fault.name : Fault → String
  | duplicateState name | unknownStart name | unknownAccepting name | unknownSource name
  | unknownTarget name => name

def Fault.message : Fault → String
  | duplicateState name => "State " ++ Text.quote name ++ " is declared more than once"
  | unknownStart name =>
    "Start state " ++ Text.quote name ++ " is not declared. Call .state(" ++ Text.quote name ++
      ") first"
  | unknownAccepting name =>
    "Accept state " ++ Text.quote name ++ " is not declared. Call .state(" ++ Text.quote name ++
      ") first"
  | unknownSource name => "Transition source " ++ Text.quote name ++ " is not declared"
  | unknownTarget name => "Transition target " ++ Text.quote name ++ " is not declared"

/-- The blueprint extended by one call. -/
def add (b : Blueprint) : Call → Blueprint
  | .state name => { b with states := b.states ++ [name] }
  | .symbol symbol => { b with symbols := b.symbols ++ [symbol] }
  | .start name => { b with start := some name }
  | .accepting name => { b with accepting := b.accepting ++ [name] }
  | .transition transition => { b with transitions := b.transitions ++ [transition] }

/-- The blueprint that a sequence of calls describes. -/
def ofCalls (calls : List Call) : Blueprint :=
  calls.foldl add {}

/-- The first name of a list that equals an earlier one, where the names `seen` came before. -/
def firstRepeated (seen : List String) : List String → Option String
  | [] => none
  | name :: rest => if seen.contains name then some name else firstRepeated (name :: seen) rest

/-- The number of a declared state. -/
def idOf? (b : Blueprint) (name : String) : Option StateId :=
  b.states.idxOf? name

/-- The number of a declared state, or a fault. -/
def resolve (b : Blueprint) (fault : String → Fault) (name : String) : Except Fault StateId :=
  match b.idOf? name with
  | some id => .ok id
  | none => .error (fault name)

/-- Puts the declared states and symbols into an empty automaton. -/
def declare (b : Blueprint) : Automaton :=
  let d := b.states.foldl (fun d name => (d.addState { name }).1) .empty
  b.symbols.foldl Automaton.addSymbol d

def buildStart (b : Blueprint) (d : Automaton) : Except Fault Automaton :=
  match b.start with
  | none => .ok d
  | some name => do
    let id ← b.resolve .unknownStart name
    return (d.setStart id).1

def buildAccepting (b : Blueprint) (d : Automaton) (name : String) : Except Fault Automaton := do
  let id ← b.resolve .unknownAccepting name
  return (d.addAccepting id).1

def buildTransition (b : Blueprint) (d : Automaton) (t : NamedTransition) :
    Except Fault Automaton := do
  let source ← b.resolve .unknownSource t.source
  let target ← b.resolve .unknownTarget t.target
  return (d.addTransition source t.symbol target).1

def build (b : Blueprint) : Except Fault Automaton :=
  match firstRepeated [] b.states with
  | some name => .error (.duplicateState name)
  | none => do
    -- the start state comes first, so its fault is reported before those of other parts
    let d ← b.buildStart b.declare
    let d ← b.accepting.foldlM b.buildAccepting d
    b.transitions.foldlM b.buildTransition d

end Blueprint

end AutomatonKit
