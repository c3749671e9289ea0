import AutomatonKit.Automaton.Edit
import AutomatonKit.Description.Directive
import AutomatonKit.Description.Warning
import AutomatonKit.Text.Lowercase

/-!
# Reading a description

A description is applied to an empty automaton line by line.  A name refers to the state that was
declared last, on an earlier line, under this name, where upper and lower case count as the same.
So a later declaration takes a name over from an earlier one and never changes what a line before
it meant.

Whatever cannot be applied is skipped with a warning: a whole line, or a single name in a list of
accepting states.
-/

namespace AutomatonKit.Description

open Text

/-- The form of a name under which it is looked up. -/
def nameKey (name : String) : String :=
  String.ofList (lowercase name.toList)

/-- The declared names, newest first, each under its key. -/
abbrev Names := List (String × StateId)

namespace Names

/-- Records a declaration, which hides an earlier one under the same key. -/
def declare (names : Names) (name : String) (id : StateId) : Names :=
  (nameKey name, id) :: names

/-- The state that a name refers to. -/
def resolve (names : Names) (name : String) : Option StateId :=
  names.lookup (nameKey name)

/-- The edge that a transition line describes, or why there is none.  The source is looked up before
the target, and the symbol comes last. -/
def resolveTransition (names : Names) (source : String) (symbol : Option Char) (target : String) :
    Except Cause Transition :=
  match names.resolve source with
  | none => .error (.unknownSource source)
  | some p =>
    match names.resolve target with
    | none => .error (.unknownTarget target)
    | some q =>
      match symbol with
      | none => .error .emptySymbol
      | some c => .ok ⟨p, c, q⟩

end Names

/-- What has been read of a description. -/
structure Reading where
  automaton : Automaton
  /-- The names declared so far. -/
  names : Names
  /-- The warnings so far, in the order of the lines. -/
  warnings : List Warning

namespace Reading

def empty : Reading :=
  ⟨.empty, [], []⟩

/-- Whether everything could be applied. -/
def isClean (r : Reading) : Bool :=
  r.warnings.isEmpty

def warn (r : Reading) (number : Nat) (line : List Char) (cause : Cause) : Reading :=
  { r with warnings := r.warnings ++ [⟨number, String.ofList line, cause⟩] }

def declare (r : Reading) (name : String) : Reading :=
  let (automaton, id) := r.automaton.addState { name }
  { r with automaton, names := r.names.declare name id }

/-- Applies a line that chooses the start state. -/
def chooseStart (r : Reading) (number : Nat) (line : List Char) (name : String) : Reading :=
  match r.names.resolve name with
  | some id => { r with automaton := (r.automaton.setStart id).1 }
  | none => r.warn number line (.unknownStart name)

/-- Applies one name of a line that makes states accepting. -/
def makeAccepting (number : Nat) (line : List Char) (r : Reading) (name : String) : Reading :=
  match r.names.resolve name with
  | some id => { r with automaton := (r.automaton.addAccepting id).1 }
  | none => r.warn number line (.unknownAccepting name)

def writeTransition (r : Reading) (number : Nat) (line : List Char) (source : String)
    (symbol : Option Char) (target : String) : Reading :=
  match r.names.resolveTransition source symbol target with
  | .ok t => { r with automaton := (r.automaton.addTransition t.source t.symbol t.target).1 }
  | .error cause => r.warn number line cause

/-- Applies a directive, which stands on the given line. -/
def apply (r : Reading) (number : Nat) (line : List Char) : Directive → Reading
  | .states names => names.foldl declare r
  | .alphabet symbols => { r with automaton := symbols.foldl Automaton.addSymbol r.automaton }
  | .start name => r.chooseStart number line name
  | .accepting names => names.foldl (makeAccepting number line) r
  | .transition source symbol target => r.writeTransition number line source symbol target
  | .malformedTransition => r.warn number line .malformedTransition
  | .unrecognized => r.warn number line .unrecognized

/-- Reads one more line.  A blank line has no effect. -/
def readLine (r : Reading) (entry : List Char × Nat) : Reading :=
  let line := trim entry.1
  if line.isEmpty then r else r.apply entry.2 line (.ofLine line)

end Reading

def readChars (text : List Char) : Reading :=
  (numberedLines text).foldl Reading.readLine .empty

def read (text : String) : Reading :=
  readChars text.toList

end AutomatonKit.Description
