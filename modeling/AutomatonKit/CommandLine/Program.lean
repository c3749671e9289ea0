import AutomatonKit.CommandLine.Help
import AutomatonKit.Description.Reader
import AutomatonKit.Description.Writer
import AutomatonKit.Lint.Rules
import AutomatonKit.Run.Trace
import AutomatonKit.Snapshot.Binary
import AutomatonKit.Snapshot.Json

/-!
# The program

What the commands do and print.  Everything that they need from outside, files, the standard input,
a fresh identifier and the time, is asked of a `Host`, so that the program runs in any surroundings
that provide one.
-/

namespace AutomatonKit.CommandLine

/-- The surroundings of the program. -/
structure Host (m : Type → Type) where
  /-- The bytes of a file, if it can be read. -/
  contentOf : String → m (Option ByteArray)
  /-- The bytes of the standard input, if it can be read. -/
  standardInput : m (Option ByteArray)
  /-- Writes a file.  The answer tells whether this was possible. -/
  replaceFile : String → ByteArray → m Bool
  /-- An identifier that has not been used before. -/
  freshId : m String
  now : m Timestamp

/-- How the program ends. -/
structure Outcome where
  output : String := ""
  /-- What went wrong, if anything did. -/
  error : Option String := none
  exitCode : Nat := 0
deriving DecidableEq

namespace Outcome

def success (output : String) : Outcome where
  output

def failure (output message : String) : Outcome where
  output
  error := some message
  exitCode := 1

end Outcome

/-- The text of lines, each with a line feed at its end. -/
def unlines (lines : List String) : String :=
  String.join (lines.map fun line => line ++ "\n")

/-! ### What the commands print -/

def checkOutcome (d : Automaton) (inputs : List String) : Outcome :=
  .success (unlines (inputs.map fun input =>
    Text.quote input ++ (if d.accepts input.toList then ": accepted" else ": rejected")))

/-- The name of a state, and a question mark for a number that is not registered. -/
def shownName (d : Automaton) (id : StateId) : String :=
  ((d.state? id).map (·.name)).getD "?"

def verdictLine : Verdict → String
  | .accepted => "accepted"
  | .rejected rejection => "rejected: " ++ rejection.message

def traceOutcome (d : Automaton) (input : String) : Outcome :=
  let trace := d.trace input.toList
  let path := trace.path.map (shownName d)
  .success (unlines (
    (if path.isEmpty then [] else [" -> ".intercalate path]) ++ [verdictLine trace.verdict]))

def describeOutcome (reading : Description.Reading) : Outcome :=
  .success (Description.write reading.automaton ++
    (if reading.isClean then ""
    else "\n" ++ unlines (reading.warnings.map fun warning => "# skipped " ++ warning.message)))

/-- The report of `lint`.  A description is read into an automaton by edits, so the search for
unreachable states does not fail. -/
def lintOutcome (d : Automaton) : Outcome :=
  match Lint.Rules.standard.check d with
  | .error fault => .failure "" ("state " ++ fault.id.label ++ " is not registered")
  | .ok [] => .success "no issues\n"
  | .ok issues =>
    .failure (unlines (issues.map (·.message))) (toString issues.length ++ " lint issue(s)")

/-! ### Running a command -/

variable {m : Type → Type} [Monad m]

/-- The text of a description file, or why it cannot be read. -/
def readDescription (host : Host m) (file : String) : m (Except String String) := do
  if file = "-" then
    return match (← host.standardInput).bind String.fromUTF8? with
      | some text => .ok text
      | none => .error "could not read description from stdin"
  else
    return match (← host.contentOf file).bind String.fromUTF8? with
      | some text => .ok text
      | none => .error ("could not read " ++ file)

/-- Reads a description file and goes on with what was read. -/
def withReading (host : Host m) (file : String) (next : Description.Reading → m Outcome) :
    m Outcome := do
  match ← readDescription host file with
  | .ok text => next (Description.read text)
  | .error message => return .failure "" message

/-- Writes the output of a command to a file. -/
def store (host : Host m) (file : String) (bytes : ByteArray) : m Outcome := do
  if ← host.replaceFile file bytes then return .success ""
  else return .failure "" ("could not write " ++ file)

/-- Stores an automaton as a snapshot. -/
def storeSnapshot (host : Host m) (d : Automaton) (output : Option String) (binary : Bool) :
    m Outcome := do
  -- the identifier and the time are asked for even if nothing can be stored
  let snapshot := Snapshot.create (← host.freshId) (← host.now) d
  match output, binary with
  | none, true => return .failure "" "--binary needs an output file"
  | some file, true => store host file (ByteArray.mk snapshot.toBytes.toArray)
  | none, false => return .success (snapshot.toJson ++ "\n")
  | some file, false => store host file snapshot.toJson.toUTF8

def Command.run (host : Host m) : Command → m Outcome
  | .check file inputs =>
    withReading host file fun reading => return checkOutcome reading.automaton inputs
  | .trace file input =>
    withReading host file fun reading => return traceOutcome reading.automaton input
  | .describe file => withReading host file fun reading => return describeOutcome reading
  | .lint file => withReading host file fun reading => return lintOutcome reading.automaton
  | .snapshot file output binary =>
    withReading host file fun reading => storeSnapshot host reading.automaton output binary

/-- Does what the arguments ask for. -/
def execute (host : Host m) (arguments : List String) : m Outcome :=
  match Request.ofArguments arguments with
  | .run command => command.run host
  | .help topic => return .success (unlines topic.page.lines)
  | .version => return .success "dfa-notation 0.1.0\n"
  | .misuse => return { error := some "the arguments cannot be understood", exitCode := 2 }

end AutomatonKit.CommandLine
