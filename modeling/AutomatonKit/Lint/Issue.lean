import AutomatonKit.State
import AutomatonKit.Text.Quoted

/-!
# Issues

An issue is something about an automaton that is probably not meant.  The automaton runs all the
same.
-/

namespace AutomatonKit.Lint

/-- A probable mistake. -/
inductive Issue where
  | noStartState
  | noAcceptStates
  | unreachable (state : StateId) (name : String)
  /-- Some symbols of the alphabet lead nowhere from the state. -/
  | incomplete (state : StateId) (name : String) (missing : List Char)
  /-- Two states have the same name but for upper and lower case. -/
  | duplicateName (name : String) (first second : StateId)
  /-- A check beyond the built-in ones has failed. -/
  | customCheckFailed (message : String)
deriving DecidableEq

def Issue.message : Issue → String
  | noStartState => "No start state is set; every input is rejected"
  | noAcceptStates => "No accept states; every input is rejected"
  | unreachable state name =>
    "State " ++ Text.quote name ++ " (" ++ state.label ++ ") is unreachable from the start state"
  | incomplete state name missing =>
    "State " ++ Text.quote name ++ " (" ++ state.label ++ ") has no transition on " ++
      Text.quoteChars missing
  | duplicateName name first second =>
    "States " ++ first.label ++ " and " ++ second.label ++ " share the name " ++ Text.quote name ++
      " (ignoring case)"
  | customCheckFailed message => "Custom check failed: " ++ message

end AutomatonKit.Lint
