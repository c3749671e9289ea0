import AutomatonKit.Automaton.Basic

/-!
# What can be wrong with an automaton

An automaton that was read from stored text may be one that no sequence of edits builds.
`Automaton.violation?` looks for the first thing that is wrong with it: first the number of rows,
then the start state, the accepting states, the flags of the states, and last the rows one after the
other.
-/

namespace AutomatonKit

/-- What is wrong with an automaton. -/
inductive Violation where
  /-- The table does not have a row for each state. -/
  | rowCount (rows states : Nat)
  | startUnregistered (id : StateId)
  | acceptingUnregistered (id : StateId)
  /-- A member of the accepting states does not carry the flag. -/
  | acceptingUnflagged (id : StateId)
  /-- A state carries the flag and is no member of the accepting states. -/
  | flagOnly (id : StateId)
  /-- A row has more cells than there are symbols. -/
  | rowTooWide (row : Nat)
  /-- The last cell of a row is empty. -/
  | rowEndsEmpty (row : Nat)
  /-- A row leads to a state that is not registered. -/
  | rowTarget (row : Nat) (target : StateId)
deriving DecidableEq

def Violation.message : Violation → String
  | rowCount rows states => s!"transition table has {rows} rows for {states} states"
  | startUnregistered id => s!"start state {id.label} is not registered"
  | acceptingUnregistered id => s!"accept state {id.label} is not registered"
  | acceptingUnflagged id => s!"accept state {id.label} is not flagged accepting"
  | flagOnly id => s!"state {id.label} is flagged accepting but not in the accept set"
  | rowTooWide row => s!"row {row} is wider than the alphabet"
  | rowEndsEmpty row => s!"row {row} ends in an undefined column"
  | rowTarget row target => s!"row {row} points at unregistered state {target.label}"

namespace Automaton

def rowCountViolation? (d : Automaton) : Option Violation :=
  if d.table.length = d.stateCount then none else some (.rowCount d.table.length d.stateCount)

def startViolation? (d : Automaton) : Option Violation :=
  d.start.bind fun id => if d.contains id then none else some (.startUnregistered id)

/-- What is wrong with a member of the accepting states. -/
def acceptingViolation? (d : Automaton) (id : StateId) : Option Violation :=
  match d.state? id with
  | none => some (.acceptingUnregistered id)
  | some state => if state.accepting then none else some (.acceptingUnflagged id)

def flagViolation? (d : Automaton) (entry : State × StateId) : Option Violation :=
  if entry.1.accepting && !d.isAccepting entry.2 then some (.flagOnly entry.2) else none

def rowViolation? (d : Automaton) (entry : Row × Nat) : Option Violation :=
  if d.alphabet.size < entry.1.length then some (.rowTooWide entry.2)
  else if entry.1.getLast? = some none then some (.rowEndsEmpty entry.2)
  else ((entry.1.filterMap fun cell => cell).find? fun target => !d.contains target).map
    (.rowTarget entry.2)

/-- The first thing that is wrong with an automaton, if anything is. -/
def violation? (d : Automaton) : Option Violation :=
  -- the order decides what is reported where there are several violations
  d.rowCountViolation?
    <|> d.startViolation?
    <|> d.accepting.ids.findSome? d.acceptingViolation?
    <|> d.numberedStates.findSome? d.flagViolation?
    <|> d.table.zipIdx.findSome? d.rowViolation?

end Automaton

end AutomatonKit
