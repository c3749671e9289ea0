import AutomatonKit.Automaton.Basic
import AutomatonKit.Run.Verdict

/-!
# Running an automaton

A run reads an input symbol by symbol.  It halts at the first symbol that it cannot follow, and once
halted it stays as it is.  A symbol is first looked for in the alphabet, then the state is asked for
any outgoing edge, and only then for the edge on the symbol; the first of these checks that fails is
the reason of the rejection.
-/

namespace AutomatonKit

/-- How far a run has come. -/
structure Run where
  /-- The state that the run is in; none only if the automaton has no start state. -/
  current : Option StateId
  consumed : Nat
  /-- Why the run cannot go on, if it cannot. -/
  halted : Option Rejection
deriving DecidableEq

/-- What one symbol did to a run. -/
inductive Step where
  /-- The run followed an edge. -/
  | moved (edge : Transition)
  /-- The run is stuck, now or since an earlier symbol. -/
  | halted (rejection : Rejection)
deriving DecidableEq

namespace Run

/-- A run that has read nothing.  Without a start state it is halted from the outset. -/
def start (d : Automaton) : Run where
  current := d.start
  consumed := 0
  halted := if d.start.isNone then some .noStartState else none

def isHalted (run : Run) : Bool :=
  run.halted.isSome

def halt (run : Run) (rejection : Rejection) : Run × Step :=
  ({ run with halted := some rejection }, .halted rejection)

def move (run : Run) (edge : Transition) : Run × Step :=
  ({ run with current := some edge.target, consumed := run.consumed + 1 }, .moved edge)

/-- Reads a symbol in a state. -/
def stepFrom (run : Run) (d : Automaton) (state : StateId) (symbol : Char) : Run × Step :=
  if !d.alphabet.contains symbol then run.halt (.outsideAlphabet run.consumed symbol)
  else if !d.hasOutgoing state then run.halt (.noOutgoing run.consumed state)
  else
    match d.successor state symbol with
    | none => run.halt (.missingTransition run.consumed state symbol)
    | some target => run.move ⟨state, symbol, target⟩

def step (run : Run) (d : Automaton) (symbol : Char) : Run × Step :=
  match run.halted, run.current with
  | some rejection, _ => (run, .halted rejection)
  | none, none => run.halt .noStartState
  | none, some state => run.stepFrom d state symbol

/-- Reads the symbols of an input up to the first one at which the run is stuck. -/
def feed (run : Run) (d : Automaton) : List Char → Run
  | [] => run
  | symbol :: rest =>
    match run.step d symbol with
    | (next, .moved _) => next.feed d rest
    | (next, .halted _) => next

/-- Whether the symbols read so far are accepted. -/
def isAccepting (run : Run) (d : Automaton) : Bool :=
  match run.halted, run.current with
  | none, some state => d.isAccepting state
  | _, _ => false

/-- The verdict on the symbols read so far. -/
def verdict (run : Run) (d : Automaton) : Verdict :=
  match run.halted, run.current with
  | some rejection, _ => .rejected rejection
  | none, none => .rejected .noStartState
  | none, some state => if d.isAccepting state then .accepted else .rejected (.notAccepting state)

/-- Whether the run accepts a further input: it must get to the end of the input and be in an
accepting state there. -/
def accepts (run : Run) (d : Automaton) : List Char → Bool
  | [] => run.isAccepting d
  | symbol :: rest =>
    match run.step d symbol with
    | (next, .moved _) => next.accepts d rest
    | (_, .halted _) => false

end Run

def Automaton.accepts (d : Automaton) (input : List Char) : Bool :=
  (Run.start d).accepts d input

end AutomatonKit
