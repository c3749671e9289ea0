/-!
# Command-line arguments

The program is called with the name of a command and its arguments, after options that hold for all
commands.  A word that begins with a hyphen is an option, unless it is the hyphen alone or stands
after a double hyphen; options and other words may be mixed.  Several one-letter options may share
a hyphen.  A word is dealt with as soon as it is met, so a request for help wins over a mistake that
comes after it, and a mistake over a request for help that comes after it.
-/

namespace AutomatonKit.CommandLine

/-- What the program shall do with a description.  The file `-` stands for the standard input. -/
inductive Command where
  /-- Report for each input whether it is accepted. -/
  | check (file : String) (inputs : List String)
  /-- Show the states visited on an input. -/
  | trace (file input : String)
  /-- Print the automaton as a description, and the skipped lines. -/
  | describe (file : String)
  /-- Report probable mistakes. -/
  | lint (file : String)
  /-- Store the automaton as a snapshot. -/
  | snapshot (file : String) (output : Option String) (binary : Bool)
deriving DecidableEq

/-- The commands without their arguments. -/
inductive CommandName where
  | check
  | trace
  | describe
  | lint
  | snapshot
deriving DecidableEq

namespace CommandName

/-- The word that calls a command. -/
def word : CommandName → String
  | .check => "check"
  | .trace => "trace"
  | .describe => "describe"
  | .lint => "lint"
  | .snapshot => "snapshot"

def all : List CommandName :=
  [.check, .trace, .describe, .lint, .snapshot]

/-- The command that a word calls. -/
def ofWord? (word : String) : Option CommandName :=
  all.find? fun name => name.word = word

end CommandName

/-- What a help text is about. -/
inductive HelpTopic where
  | program
  | command (name : CommandName)
  | help
deriving DecidableEq

/-- What the arguments ask for. -/
inductive Request where
  | run (command : Command)
  | help (topic : HelpTopic)
  | version
  /-- The arguments cannot be understood. -/
  | misuse
deriving DecidableEq

/-- Why the arguments of a command are not read to the end. -/
inductive Stop where
  | help
  | misuse
deriving DecidableEq

/-- Whether a word is an option where options are understood. -/
def isOption (word : String) : Bool :=
  -- a single hyphen is a word, which names the standard input
  word.startsWith "-" && word != "-"

/-! ### Arguments of a command -/

/-- The arguments that a command takes. -/
structure Form where
  /-- The least number of words that are no options. -/
  least : Nat
  /-- The greatest number of words that are no options, if there is one. -/
  most : Option Nat
  /-- Whether the command has options for its output. -/
  hasOutput : Bool := false

/-- The arguments of a command that have been read. -/
structure Found where
  /-- The words that are no options. -/
  words : List String := []
  output : Option String := none
  binary : Bool := false
  /-- Whether the next word is the file to write. -/
  awaitsOutput : Bool := false
  /-- Whether a double hyphen has ended the options. -/
  optionsEnded : Bool := false

namespace Found

/-- Takes in a word that is no option. -/
def addWord (form : Form) (found : Found) (word : String) : Except Stop Found :=
  if form.most = some found.words.length then .error .misuse
  else .ok { found with words := found.words ++ [word] }

/-- Takes in the name of the file to write, which may be given once. -/
def setOutput (found : Found) (file : String) : Except Stop Found :=
  if found.output.isSome then .error .misuse
  else .ok { found with output := some file, awaitsOutput := false }

/-- Takes in the request for the binary form, which may be given once. -/
def setBinary (found : Found) : Except Stop Found :=
  if found.binary then .error .misuse else .ok { found with binary := true }

/-- Takes in an option that is spelt out, after its two hyphens. -/
def addLongOption (form : Form) (found : Found) (option : List Char) : Except Stop Found :=
  let name := option.takeWhile (· != '=')
  let value := option.dropWhile (· != '=')
  if option = "help".toList then .error .help
  else if form.hasOutput ∧ option = "binary".toList then found.setBinary
  else if form.hasOutput ∧ name = "output".toList then
    match value with
    | [] => .ok { found with awaitsOutput := true }
    | _ :: file => found.setOutput (String.ofList file)
  else .error .misuse

/-- Takes in one-letter options, after their hyphen. -/
def addShortOptions (form : Form) (found : Found) : List Char → Except Stop Found
  | 'h' :: _ => .error .help
  | 'o' :: rest =>
    if form.hasOutput then
      -- the file is the next word, or stands in the same word after an optional equality sign
      match rest with
      | [] => .ok { found with awaitsOutput := true }
      | '=' :: file => found.setOutput (String.ofList file)
      | file => found.setOutput (String.ofList file)
    else .error .misuse
  | _ => .error .misuse

def add (form : Form) (found : Found) (word : String) : Except Stop Found :=
  if found.optionsEnded then found.addWord form word
  else if found.awaitsOutput then
    if isOption word then .error .misuse else found.setOutput word
  else if isOption word then
    match word.toList with
    | ['-', '-'] => .ok { found with optionsEnded := true }
    | '-' :: '-' :: option => found.addLongOption form option
    | _ :: options => found.addShortOptions form options
    | [] => .error .misuse
  else found.addWord form word

/-- The arguments of a command, all of them read. -/
def ofWords (form : Form) (words : List String) : Except Stop Found := do
  let found ← words.foldlM (add form) {}
  if found.awaitsOutput || decide (found.words.length < form.least) then .error .misuse
  else return found

end Found

def CommandName.form : CommandName → Form
  | .check => ⟨2, none, false⟩
  | .trace => ⟨1, some 2, false⟩
  | .describe => ⟨1, some 1, false⟩
  | .lint => ⟨1, some 1, false⟩
  | .snapshot => ⟨1, some 1, true⟩

/-- The command of a name with its arguments. -/
def Command.ofFound? (name : CommandName) (found : Found) : Option Command :=
  match name, found.words with
  | .check, file :: inputs => some (.check file inputs)
  | .trace, [file] => some (.trace file "")
  | .trace, [file, input] => some (.trace file input)
  | .describe, [file] => some (.describe file)
  | .lint, [file] => some (.lint file)
  | .snapshot, [file] => some (.snapshot file found.output found.binary)
  | _, _ => none

/-! ### Arguments of the program -/

/-- The options that hold for all commands.  They only concern what is logged. -/
structure Verbosity where
  /-- Log everything. -/
  verbose : Bool := false
  /-- Log what helps to find faults. -/
  debug : Bool := false

/-- Takes in a one-letter option.  Each may be given once. -/
def Verbosity.addShort (v : Verbosity) : Char → Except Request Verbosity
  | 'v' => if v.verbose then .error .misuse else .ok { v with verbose := true }
  | 'd' => if v.debug then .error .misuse else .ok { v with debug := true }
  | 'h' => .error (.help .program)
  | 'V' => .error .version
  | _ => .error .misuse

/-- Takes in an option that is spelt out, after its two hyphens. -/
def Verbosity.addLong (v : Verbosity) (option : List Char) : Except Request Verbosity :=
  if option = "verbose".toList then v.addShort 'v'
  else if option = "debug".toList then v.addShort 'd'
  else if option = "help".toList then .error (.help .program)
  else if option = "version".toList then .error .version
  else .error .misuse

/-- Takes in a word that is an option. -/
def Verbosity.add (v : Verbosity) (word : String) : Except Request Verbosity :=
  match word.toList with
  | '-' :: '-' :: option => v.addLong option
  | _ :: options => options.foldlM Verbosity.addShort v
  | [] => .error .misuse

/-- The topic that a word names. -/
def HelpTopic.ofWord? (word : String) : Option HelpTopic :=
  if word = "help" then some .help else (CommandName.ofWord? word).map .command

/-- What a request for help asks for.  It may name one topic. -/
def helpRequest : List String → Request
  | [] => .help .program
  | [word] =>
    match HelpTopic.ofWord? word with
    | some topic => .help topic
    | none => .misuse
  | _ => .misuse

/-- What a command with its arguments asks for.  The two degrees of logging exclude each other. -/
def commandRequest (v : Verbosity) (name : CommandName) (words : List String) : Request :=
  match Found.ofWords name.form words with
  | .error .help => .help (.command name)
  | .error .misuse => .misuse
  | .ok found =>
    if v.verbose && v.debug then .misuse
    else
      match Command.ofFound? name found with
      | some command => .run command
      | none => .misuse

/-- What the arguments ask for, after the options `v`. -/
def requestAfter (v : Verbosity) : List String → Request
  | [] => .misuse
  | word :: words =>
    if isOption word then
      match v.add word with
      | .error request => request
      | .ok v => requestAfter v words
    else if word = "help" then helpRequest words
    else
      match CommandName.ofWord? word with
      | some name => commandRequest v name words
      | none => .misuse

/-- What the arguments of the program ask for. -/
def Request.ofArguments (arguments : List String) : Request :=
  requestAfter {} arguments

end AutomatonKit.CommandLine
