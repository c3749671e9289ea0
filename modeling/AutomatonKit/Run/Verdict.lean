import AutomatonKit.State
import AutomatonKit.Text.Quoted

/-!
# Verdicts

The verdict on an input is either that it is accepted or why it is not.  Positions count the symbols
of the input from 0.
-/

namespace AutomatonKit

/-- Why an input is not accepted. -/
inductive Rejection where
  | noStartState
  /-- A symbol does not belong to the alphabet. -/
  | outsideAlphabet (position : Nat) (symbol : Char)
  /-- A symbol is left to read in a state that no edge leaves. -/
  | noOutgoing (position : Nat) (state : StateId)
  /-- No edge for the symbol leaves the state. -/
  | missingTransition (position : Nat) (state : StateId) (symbol : Char)
  /-- The whole input was read, and the last state is not accepting. -/
  | notAccepting (state : StateId)
deriving DecidableEq

def Rejection.message : Rejection → String
  | noStartState => "automaton has no start state"
  | outsideAlphabet position symbol =>
    "symbol " ++ Text.quoteChar symbol ++ " at position " ++ toString position ++
      " is not in the alphabet"
  | noOutgoing position state =>
    "state " ++ state.label ++ " has no outgoing transitions (position " ++ toString position ++ ")"
  | missingTransition position state symbol =>
    "state " ++ state.label ++ " has no transition on " ++ Text.quoteChar symbol ++ " (position " ++
      toString position ++ ")"
  | notAccepting state => "input ended in non-accepting state " ++ state.label

/-- The classification of an input. -/
inductive Verdict where
  | accepted
  | rejected (rejection : Rejection)
deriving DecidableEq

def Verdict.isAccepted : Verdict → Bool
  | accepted => true
  | rejected _ => false

end AutomatonKit
