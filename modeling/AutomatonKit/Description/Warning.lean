import AutomatonKit.Text.Quoted

/-!
# Warnings about skipped lines

Reading a description never fails.  What could not be applied is skipped, and a warning says where
and why.
-/

namespace AutomatonKit.Description

/-- Why a line, or one name of a list, was skipped. -/
inductive Cause where
  | unrecognized
  /-- The start state is not declared on an earlier line. -/
  | unknownStart (name : String)
  /-- An accepting state is not declared on an earlier line. -/
  | unknownAccepting (name : String)
  /-- The line has an arrow and is no transition. -/
  | malformedTransition
  /-- The source of a transition is not declared on an earlier line. -/
  | unknownSource (name : String)
  /-- The target of a transition is not declared on an earlier line. -/
  | unknownTarget (name : String)
  | emptySymbol
deriving DecidableEq

def Cause.message : Cause → String
  | unrecognized => "line is not a recognized directive"
  | unknownStart name => "start state " ++ Text.quote name ++ " has not been declared"
  | unknownAccepting name => "accept state " ++ Text.quote name ++ " has not been declared"
  | malformedTransition => "transition must have the form `from, symbol -> to`"
  | unknownSource name => "transition source " ++ Text.quote name ++ " has not been declared"
  | unknownTarget name => "transition target " ++ Text.quote name ++ " has not been declared"
  | emptySymbol => "transition has an empty symbol"

def Cause.name? : Cause → Option String
  | unknownStart name | unknownAccepting name | unknownSource name | unknownTarget name => some name
  | unrecognized | malformedTransition | emptySymbol => none

/-- A note that something on a line was skipped. -/
structure Warning where
  /-- The number of the line, counted from 1. -/
  line : Nat
  text : String
  cause : Cause
deriving DecidableEq

/-- The wording of a warning: the place, the cause, and the line itself between parentheses. -/
def Warning.message (w : Warning) : String :=
  "line " ++ toString w.line ++ ": " ++ w.cause.message ++ " (" ++ w.text ++ ")"

end AutomatonKit.Description
