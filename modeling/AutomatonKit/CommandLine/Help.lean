import AutomatonKit.CommandLine.Arguments

/-!
# Help texts

A help text says what its topic does and how it is called, and lists what can be written in the
call: commands, arguments and options.  In a list the explanations stand in one column, two blanks
after the longest spelling; a spelling that needs no explanation is padded to the column all the
same.
-/

namespace AutomatonKit.CommandLine

/-! ### Layout -/

/-- An entry of a list. -/
structure HelpEntry where
  spelling : String
  explanation : String := ""

/-- A list of entries with its title. -/
structure HelpList where
  title : String
  entries : List HelpEntry

/-- A help text. -/
structure HelpPage where
  about : String
  /-- How it is called, after the name of the program. -/
  usage : String
  /-- What can be written in the call. -/
  lists : List HelpList

/-- The length of the longest spelling. -/
def HelpList.width (list : HelpList) : Nat :=
  (list.entries.map fun entry => entry.spelling.length).foldl max 0

/-- The line of an entry in a list whose spellings have at most `width` characters. -/
def HelpEntry.line (width : Nat) (entry : HelpEntry) : String :=
  "  " ++ entry.spelling.pushn ' ' (width - entry.spelling.length) ++ "  " ++ entry.explanation

def HelpList.lines (list : HelpList) : List String :=
  (list.title ++ ":") :: list.entries.map (HelpEntry.line list.width)

def HelpPage.lines (page : HelpPage) : List String :=
  [page.about, "", "Usage: dfa " ++ page.usage] ++ page.lists.flatMap fun list => "" :: list.lines

/-! ### Commands -/

/-- The option that asks for help. -/
def helpOption : HelpEntry :=
  ⟨"-h, --help", "Print help"⟩

/-- The argument that names the description. -/
def fileArgument : HelpEntry :=
  ⟨"<file>", "automaton description file, or - for stdin"⟩

namespace CommandName

def about : CommandName → String
  | .check => "Report whether each input is accepted"
  | .trace => "Show the states visited on one input"
  | .describe => "Print the automaton in canonical form with skipped lines"
  | .lint => "Check the automaton for likely mistakes"
  | .snapshot => "Save the automaton as a versioned snapshot"

def arguments : CommandName → List HelpEntry
  | .check => [fileArgument, ⟨"<input>...", ""⟩]
  | .trace => [fileArgument, ⟨"[input]", "input string, empty when omitted"⟩]
  | .describe | .lint | .snapshot => [fileArgument]

/-- The options of a command, other than the one that asks for help. -/
def options : CommandName → List HelpEntry
  | .snapshot => [
      ⟨"-o, --output <output>", ""⟩,
      ⟨"    --binary", "Write bincode instead of JSON"⟩]
  | .check | .trace | .describe | .lint => []

def usage (name : CommandName) : String :=
  " ".intercalate
    ([name.word] ++ (if name.options.isEmpty then [] else ["[OPTIONS]"]) ++
      name.arguments.map (·.spelling))

end CommandName

/-! ### Topics -/

/-- What a request for help does. -/
def aboutHelp : String :=
  "Print this message or the help of the given subcommand(s)"

/-- The help text on a topic. -/
def HelpTopic.page : HelpTopic → HelpPage
  | .program => {
      about := "Deterministic finite automata built from a small textual notation"
      usage := "[OPTIONS] <COMMAND>"
      lists := [
        ⟨"Commands",
          (CommandName.all.map fun name => ⟨name.word, name.about⟩) ++ [⟨"help", aboutHelp⟩]⟩,
        ⟨"Options", [
          ⟨"-v, --verbose", "Enable verbose logging"⟩,
          ⟨"-d, --debug", "Turn on debugging information"⟩,
          helpOption,
          ⟨"-V, --version", "Print version"⟩]⟩] }
  | .command name => {
      about := name.about
      usage := name.usage
      lists := [⟨"Arguments", name.arguments⟩, ⟨"Options", name.options ++ [helpOption]⟩] }
  | .help => {
      about := aboutHelp
      usage := "help [COMMAND]..."
      lists := [⟨"Arguments", [⟨"[COMMAND]...", "Print help for the subcommand(s)"⟩]⟩] }

end AutomatonKit.CommandLine
