import AutomatonKit.Lint.Reachability
import AutomatonKit.Lint.Validation
import AutomatonKit.Run.Basic
import AutomatonKit.Text.Lowercase

/-!
# Lint rules

`Rules` says which of the five built-in checks are on and which further checks are made.
`Rules.validate` makes them all.  The built-in checks list their issues in a fixed order, and each
issue counts as a failure of its own.  After these come the results of the further checks, in the
order in which the checks were added, and then all results are put together.  `Rules.check` lists
the issues of the outcome.
-/

namespace AutomatonKit.Lint

/-- The choice of checks. -/
structure Rules where
  /-- Report a missing start state. -/
  requireStart : Bool := false
  /-- Report an empty set of accepting states. -/
  requireAccepting : Bool := false
  /-- Report states that no input leads to. -/
  reachability : Bool := false
  /-- Report states without an edge for some symbol. -/
  completeness : Bool := false
  /-- Report names that differ only by case. -/
  distinctNames : Bool := false
  /-- Further checks. -/
  custom : List (Automaton → Validation Unit) := []

/-- One call that adds to the choice of checks. -/
inductive Rule where
  | requireStart
  | requireAccepting
  | reachability
  | completeness
  | distinctNames
  | custom (check : Automaton → Validation Unit)

/-- A check that a property holds, with a message for when it does not. -/
def Rule.require (property : Automaton → Bool) (message : String) : Rule :=
  .custom fun d => if property d then .success () else .fail (.customCheckFailed message)

namespace Rules

/-- All built-in checks and no others. -/
def standard : Rules where
  requireStart := true
  requireAccepting := true
  reachability := true
  completeness := true
  distinctNames := true

def add (rules : Rules) : Rule → Rules
  | .requireStart => { rules with requireStart := true }
  | .requireAccepting => { rules with requireAccepting := true }
  | .reachability => { rules with reachability := true }
  | .completeness => { rules with completeness := true }
  | .distinctNames => { rules with distinctNames := true }
  | .custom check => { rules with custom := rules.custom ++ [check] }

/-- The choice that a sequence of calls makes, which begins with no check at all. -/
def ofList (rules : List Rule) : Rules :=
  rules.foldl add {}

end Rules

/-! ### The built-in checks -/

def startIssues (d : Automaton) : List Issue :=
  if d.start.isNone then [.noStartState] else []

def acceptingIssues (d : Automaton) : List Issue :=
  if d.accepting.ids.isEmpty then [.noAcceptStates] else []

def unreachableIssues (d : Automaton) : Except DanglingId (List Issue) := do
  let unreachable ← unreachableStates d
  return (d.numberedStates.filter fun entry => unreachable.contains entry.2).map
    fun (state, id) => .unreachable id state.name

/-- The symbols of the alphabet that lead nowhere from a state. -/
def missingSymbols (d : Automaton) (id : StateId) : List Char :=
  d.alphabet.symbols.filter fun symbol => (d.successor id symbol).isNone

def incompleteIssues (d : Automaton) : List Issue :=
  d.numberedStates.filterMap fun (state, id) =>
    let missing := missingSymbols d id
    if missing.isEmpty then none else some (.incomplete id state.name missing)

/-- Reports each state whose name is the same, but for case, as that of a state before it.  The list
`firstSeen` holds the first state under each name met so far, the names in lower case. -/
def duplicatesAfter (firstSeen : List (List Char × StateId)) :
    List (State × StateId) → List Issue
  | [] => []
  | (state, id) :: rest =>
    let key := Text.lowercase state.name.toList
    match firstSeen.lookup key with
    | some first => .duplicateName state.name first id :: duplicatesAfter firstSeen rest
    | none => duplicatesAfter ((key, id) :: firstSeen) rest

/-- Reports the states whose names differ only by case from one before. -/
def duplicateIssues (d : Automaton) : List Issue :=
  duplicatesAfter [] d.numberedStates

/-! ### Checking -/

/-- All issues that the chosen built-in checks find. -/
def Rules.builtInIssues (rules : Rules) (d : Automaton) : Except DanglingId (List Issue) := do
  let unreachable ← if rules.reachability then unreachableIssues d else .ok []
  return (if rules.requireStart then startIssues d else []) ++
    (if rules.requireAccepting then acceptingIssues d else []) ++
    unreachable ++
    (if rules.completeness then incompleteIssues d else []) ++
    (if rules.distinctNames then duplicateIssues d else [])

/-- The outcome of the chosen checks, where `combine` puts results together. -/
def Rules.validate (rules : Rules) (combine : List (Validation Unit) → Validation (List Unit))
    (d : Automaton) : Except DanglingId (Validation Unit) := do
  let found ← rules.builtInIssues d
  let results := found.map Validation.fail ++ rules.custom.map fun check => check d
  return (combine results).map fun _ => ()

/-- All issues that the chosen checks find. -/
def Rules.check (rules : Rules) (d : Automaton) : Except DanglingId (List Issue) := do
  return (← rules.validate Validation.all d).issues

end AutomatonKit.Lint
