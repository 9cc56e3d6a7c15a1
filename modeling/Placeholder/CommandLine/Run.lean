import Placeholder.CommandLine.Environment
import Placeholder.CommandLine.Request
import Placeholder.CommandLine.Style
import Placeholder.Config.Reader
import Placeholder.Engine
import Placeholder.Json.Reader
import Placeholder.Text.Blank

/-! # Running the program

The program reads all that it needs before it writes anything: the configuration,
then the values for names from a file and from assignments, then the templates. If
one of them is bad, nothing is written but a message with a suggestion.

There is no log. A program may also write log lines to standard error, for instance
one for every failure of a processor; the option `-v`, which asks for more of them, is
read and has no effect, and a variable of the environment that sets how many there are
is not looked at. Log lines change neither the exit code nor standard output.
-/

namespace Placeholder.CommandLine

/-- What a run of the program leaves: its exit code, what it writes to standard
output, and what it writes to standard error apart from a log. -/
structure Report where
  code : Nat
  output : String := ""
  errors : String := ""
deriving DecidableEq, Repr

/-! ## What the program reads -/

/-- The configuration. -/
def loadConfig (env : Environment) : Option String → Except Failure Config
  | some path => do Config.ofYaml (← env.readText path)
  | none => .ok {}

/-- The value of a text, which is YAML or JSON according to the name of its file. -/
def readValues (path text : String) : Except Failure Json.Value :=
  match fileExtension? path with
  | some "yaml" | some "yml" => (Yaml.parse? text).elim (.error .badYaml) .ok
  | _ => (Json.parse? text).elim (.error .badJson) .ok

/-- The values for names that a file gives. -/
def loadVars (env : Environment) : Option String → Except Failure Replacements
  | some path => do Replacements.ofJson (← readValues path (← env.readText path))
  | none => .ok Table.empty

/-- An assignment as a name, without the blanks around it, and a value. The name is
what stands before the first equals sign. -/
def readAssignment (text : String) : Except Failure (String × String) :=
  match Text.splitFirst? '=' text.toList with
  | none => .error (.badAssignment text)
  | some (name, value) =>
      match Text.trimList name with
      | [] => .error (.badAssignment text)
      | name => .ok (String.ofList name, String.ofList value)

/-- The values for names after some assignments. -/
def assign (vars : Replacements) (assignments : List String) : Except Failure Replacements :=
  assignments.foldlM (fun vars text => do
    let (name, value) ← readAssignment text
    return vars.setLiteral name value) vars

/-- A text without the line ends at its end. -/
def dropLineEnds (text : String) : String :=
  String.ofList (Text.dropEnd (fun c => c == '\r' || c == '\n') text.toList)

/-- The templates to render: those that are given, or standard input. -/
def loadTemplates (env : Environment) (given : List String) : Except Failure (List String) :=
  if given.isEmpty then do return [dropLineEnds (← env.readInput)] else .ok given

/-! ## What the program writes -/

/-- Lines of text. -/
def unlines (lines : List String) : String := String.join (lines.map (· ++ "\n"))

/-- The arguments of a tag or its processor. -/
def showArguments : Arguments → String
  | some args => " args=[" ++ ", ".intercalate args ++ "]"
  | none => ""

/-- The line for a tag. -/
def showTag (colour : Bool) (tag : Tag) : String :=
  let processor := match tag.processor with
    | some call => " | " ++ Style.green.paint colour call.name ++ showArguments call.args
    | none => ""
  "  " ++ Style.dimmed.paint colour tag.raw ++ " " ++ Style.bold.paint colour tag.name ++
    showArguments tag.args ++ processor

/-- The lines for all tags of a template. -/
def showTags (colour : Bool) (tags : List Tag) : List String :=
  let arrow := Style.cyan.paint colour "→"
  if tags.isEmpty then [arrow ++ " no tags"]
  else (arrow ++ " " ++ toString tags.length ++ " tags") :: tags.map (showTag colour)

/-- The lines for a failure. -/
def showFailure (colour : Bool) (failure : Failure) : List String :=
  [Style.alarm.paint colour "Error:" ++ " " ++ failure.message,
   "  " ++ Style.yellow.paint colour "Fix:" ++ " " ++ failure.fix]

/-! ## Runs -/

/-- The lines that a command gives. -/
def perform (env : Environment) (request : Request) : Except Failure (List String) := do
  let config ← loadConfig env request.config
  let engine := Engine.new config env.now
  match request.command with
  | .render templates path assignments =>
      let vars ← assign (← loadVars env path) assignments
      let templates ← loadTemplates env templates
      return (State.renderAll ⟨engine, vars⟩ templates).1
  | .parse template => return showTags env.colour (engine.tags template).1
  | .processors => return engine.registry.names.map (Style.cyan.paint env.colour)

/-- What a request leaves. -/
def Request.run (env : Environment) (request : Request) : Report :=
  match perform env request with
  | .ok lines => { code := 0, output := unlines lines }
  | .error failure => { code := 1, errors := unlines (showFailure env.colour failure) }

/-- How the program is called. The help of a single command is this text too. -/
def usageText : String := unlines
  ["Placeholder substitution with pluggable processors",
   "",
   "Usage: replacer [OPTIONS] <COMMAND>",
   "",
   "Commands:",
   "  render      Render templates, one result per line (reads stdin if none given)",
   "  parse       List the tags found in a template",
   "  processors  List available processors",
   "  help        Print this message or the help of the given subcommand(s)",
   "",
   "Options:",
   "  -c, --config <CONFIG>  YAML config file (processor defaults, cache)",
   "  -v, --verbose          Log resolution details to stderr",
   "  -h, --help             Print help",
   "  -V, --version          Print version"]

/-- What a command line that is no request leaves. -/
def Stop.report : Stop → Report
  | .usage => { code := 2, errors := usageText }
  | .version => { code := 0, output := "replacer 0.1.0\n" }
  | .help => { code := 0, output := usageText }

/-- What the program leaves when it is called with some words. -/
def run (env : Environment) (words : List String) : Report :=
  match Request.ofWords words with
  | .ok request => request.run env
  | .error stop => stop.report

end Placeholder.CommandLine
