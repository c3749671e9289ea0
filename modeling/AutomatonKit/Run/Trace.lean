import AutomatonKit.Run.Basic

/-!
# Traces

A trace records a run on a whole input: where it began, the edges that it followed and the verdict.
It stands on its own and does not refer to the automaton.
-/

namespace AutomatonKit

/-- A recorded run. -/
structure Trace where
  start : Option StateId
  /-- The edges that were followed, in order. -/
  steps : List Transition
  verdict : Verdict
deriving DecidableEq

/-- The edges that a run follows on an input, and the run at the end. -/
def Run.record (run : Run) (d : Automaton) : List Char → List Transition × Run
  | [] => ([], run)
  | symbol :: rest =>
    match run.step d symbol with
    | (next, .moved edge) =>
      let (edges, last) := next.record d rest
      (edge :: edges, last)
    | (next, .halted _) => ([], next)

def Automaton.trace (d : Automaton) (input : List Char) : Trace :=
  let (steps, last) := (Run.start d).record d input
  ⟨(Run.start d).current, steps, last.verdict d⟩

namespace Trace

/-- The states visited: the start state and the target of each edge.  Without a start state there
are none. -/
def path (t : Trace) : List StateId :=
  t.start.toList ++ t.steps.map (·.target)

/-- The state at the end, whether the input was accepted or not. -/
def finalState? (t : Trace) : Option StateId :=
  (t.steps.getLast?.map (·.target)).or t.start

def isAccepted (t : Trace) : Bool :=
  t.verdict.isAccepted

end Trace

end AutomatonKit
