import AutomatonKit.Text.Split

/-!
# The lines of a description

A description is read line by line, and each line is one of five directives:

* `States:` followed by names between commas declares states;
* `Alphabet:` followed by symbols between commas adds symbols;
* `Start state:` followed by a name chooses the start state;
* `Accept states:` followed by names between commas makes states accepting;
* `source, symbol -> target` is a transition.

The labels are compared exactly and before the arrow is looked for, so a line `States: a->b`
declares a state.  Of a symbol that is written with several characters the first one counts.
-/

namespace AutomatonKit.Description

open Text

/-- The label of a line that declares states. -/
def statesLabel : List Char := "States:".toList

/-- The label of a line that adds symbols. -/
def alphabetLabel : List Char := "Alphabet:".toList

/-- The label of a line that chooses the start state. -/
def startLabel : List Char := "Start state:".toList

/-- The label of a line that makes states accepting. -/
def acceptingLabel : List Char := "Accept states:".toList

/-- What a line asks for. -/
inductive Directive where
  /-- Declare states, in this order. -/
  | states (names : List String)
  /-- Add symbols, in this order. -/
  | alphabet (symbols : List Char)
  | start (name : String)
  | accepting (names : List String)
  /-- Write a transition.  The symbol is missing where nothing stands between comma and arrow. -/
  | transition (source : String) (symbol : Option Char) (target : String)
  /-- A line with an arrow that does not have the form of a transition. -/
  | malformedTransition
  /-- Any other line. -/
  | unrecognized
deriving DecidableEq

/-- The source, symbol and target parts of a transition line, trimmed.  The line must have exactly
one arrow and exactly one comma before it. -/
def splitTransition (line : List Char) : Option (List Char × List Char × List Char) := do
  let (left, target) ← cutArrow line
  if hasArrow target then none
  else
    let (source, symbol) ← cutAt ',' left
    if symbol.contains ',' then none
    else return (trim source, trim symbol, trim target)

def names (list : List Char) : List String :=
  (tokens list).map String.ofList

/-- The symbols of a comma-separated list: the first characters of its tokens. -/
def symbols (list : List Char) : List Char :=
  (tokens list).filterMap List.head?

/-- The directive of a line that begins with no label. -/
def Directive.ofPlainLine (line : List Char) : Directive :=
  if hasArrow line then
    match splitTransition line with
    | some (source, symbol, target) =>
      .transition (String.ofList source) symbol.head? (String.ofList target)
    | none => .malformedTransition
  else .unrecognized

/-- The directive of a trimmed line. -/
def Directive.ofLine (line : List Char) : Directive :=
  match afterLabel statesLabel line with
  | some list => .states (names list)
  | none =>
    match afterLabel alphabetLabel line with
    | some list => .alphabet (symbols list)
    | none =>
      match afterLabel startLabel line with
      | some name => .start (String.ofList (trim name))
      | none =>
        match afterLabel acceptingLabel line with
        | some list => .accepting (names list)
        | none => .ofPlainLine line

end AutomatonKit.Description
