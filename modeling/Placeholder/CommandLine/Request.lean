import Placeholder.Text.Cut

/-! # Requests

What the words of a command line ask for. A word that begins with a dash is an
option, or several one-letter options in one word; a parameter takes its value from
the rest of its word or from the next word, which must not begin with a dash unless
it is nothing but a dash. Behind two dashes every word stands for itself.

Options that belong to every command may stand in front of the command as well. A
parameter with a single value and a switch may be given once there and once behind
the command; the value behind the command counts.
-/

namespace Placeholder.CommandLine

/-- What the program is to do with templates. -/
inductive Command where
  /-- Renders templates, or standard input where there are none. -/
  | render (templates : List String) (vars : Option String) (assignments : List String)
  /-- Lists the tags of a template. -/
  | parse (template : String)
  /-- Lists the processors. -/
  | processors
deriving DecidableEq, Repr

/-- A command and the file with the configuration. -/
structure Request where
  config : Option String
  command : Command
deriving DecidableEq, Repr

/-- Why a command line is no request. -/
inductive Stop where
  | usage | version | help
deriving DecidableEq, Repr

/-! ## Options -/

/-- An option that takes no value. -/
inductive Switch where
  | verbose | version | help
deriving DecidableEq, Repr

/-- An option that takes a value. -/
inductive Parameter where
  | config | vars | assignment
deriving DecidableEq, Repr

/-- An option. -/
inductive Flag where
  | switch (s : Switch)
  | parameter (p : Parameter)
deriving DecidableEq, Repr

/-- The names of an option. -/
structure Names where
  short : Option Char
  long : String
  flag : Flag
deriving Repr

/-- What may stand in a part of a command line: some options, and so many words. -/
structure Level where
  options : List Names
  maxWords : Option Nat

namespace Level

/-- The options of every part. -/
def common : List Names :=
  [⟨some 'c', "config", .parameter .config⟩,
   ⟨some 'v', "verbose", .switch .verbose⟩,
   ⟨some 'h', "help", .switch .help⟩]

/-- In front of the command. -/
def outer : Level := ⟨⟨some 'V', "version", .switch .version⟩ :: common, some 0⟩

/-- Behind the command `render`. -/
def render : Level :=
  ⟨⟨none, "vars", .parameter .vars⟩ :: ⟨some 's', "set", .parameter .assignment⟩ :: common, none⟩

/-- Behind the command `parse`. -/
def parse : Level := ⟨common, some 1⟩

/-- Behind the command `processors`. -/
def processors : Level := ⟨common, some 0⟩

/-- The option with a one-letter name. -/
def short? (level : Level) (c : Char) : Option Flag :=
  (level.options.find? fun o => o.short == some c).map Names.flag

/-- The option with a long name. -/
def long? (level : Level) (name : String) : Option Flag :=
  (level.options.find? fun o => o.long == name).map Names.flag

/-- Whether there may be so many words. -/
def hasRoom (level : Level) (count : Nat) : Bool := level.maxWords.all (count ≤ ·)

end Level

/-! ## Reading a part -/

/-- What a part of a command line has given. -/
structure Given where
  config : Option String := none
  verbose : Bool := false
  vars : Option String := none
  assignments : List String := []
  words : List String := []
deriving DecidableEq, Repr

namespace Given

/-- The name of a file, which must not be empty or given twice. -/
def setPath (before : Option String) (path : String) : Except Stop (Option String) :=
  if before.isSome || path.isEmpty then .error .usage else .ok (some path)

/-- Takes in an option without a value. -/
def turnOn (g : Given) : Switch → Except Stop Given
  | .verbose => if g.verbose then .error .usage else .ok { g with verbose := true }
  | .version => .error .version
  | .help => .error .help

/-- Takes in an option with its value. -/
def set (g : Given) (p : Parameter) (value : String) : Except Stop Given :=
  match p with
  | .config => do return { g with config := ← setPath g.config value }
  | .vars => do return { g with vars := ← setPath g.vars value }
  | .assignment => .ok { g with assignments := g.assignments ++ [value] }

/-- Takes in words that stand for themselves. -/
def addWords (g : Given) (level : Level) (words : List String) : Except Stop Given :=
  let words := g.words ++ words
  if level.hasRoom words.length then .ok { g with words := words } else .error .usage

/-- Takes in a word of one-letter options. The parameter whose value is the next word
is left over. -/
def readShort (level : Level) (g : Given) : List Char → Except Stop (Given × Option Parameter)
  | [] => .ok (g, none)
  | c :: cs =>
      match level.short? c with
      | none => .error .usage
      | some (.switch s) => do readShort level (← g.turnOn s) cs
      | some (.parameter p) =>
          match cs with
          | [] => .ok (g, some p)
          | '=' :: value | value => do return (← g.set p (String.ofList value), none)

/-- Takes in a long option, with the value in its word if there is one. The parameter
whose value is the next word is left over. -/
def readLong (level : Level) (g : Given) (cs : List Char) :
    Except Stop (Given × Option Parameter) :=
  let (name, value) := match Text.splitFirst? '=' cs with
    | some (name, value) => (name, some value)
    | none => (cs, none)
  match level.long? (String.ofList name), value with
  | some (.switch s), none => do return (← g.turnOn s, none)
  | some (.parameter p), some value => do return (← g.set p (String.ofList value), none)
  | some (.parameter p), none => .ok (g, some p)
  | _, _ => .error .usage

end Given

/-- Whether a word is an option. -/
def isOption : List Char → Bool
  | ['-'] => false
  | '-' :: _ => true
  | _ => false

/-- Reads the words of a part, given the parameter whose value the first word has to
be. In front of the command, reading ends at the first word that is no option. -/
def readWords (level : Level) (beforeCommand : Bool) (awaiting : Option Parameter) (g : Given) :
    List String → Except Stop (Given × List String)
  | [] => if awaiting.isSome then .error .usage else .ok (g, [])
  | word :: words =>
      match awaiting with
      | some p =>
          if isOption word.toList then .error .usage
          else do readWords level beforeCommand none (← g.set p word) words
      | none =>
          match word.toList with
          | ['-', '-'] => do return (← g.addWords level words, [])
          | '-' :: '-' :: cs => do
              let (g, awaiting) ← g.readLong level cs
              readWords level beforeCommand awaiting g words
          | '-' :: c :: cs => do
              let (g, awaiting) ← g.readShort level (c :: cs)
              readWords level beforeCommand awaiting g words
          | _ =>
              if beforeCommand then .ok (g, word :: words)
              else do readWords level beforeCommand none (← g.addWords level [word]) words

/-- Whether there is a help text on these words. -/
def isTopic : List String → Bool
  | [] => true
  | [word] => ["render", "parse", "processors", "help"].contains word
  | _ => false

/-- What the words behind a command ask for. -/
def readCommand (name : String) (words : List String) : Except Stop (Option String × Command) :=
  match name with
  | "render" => do
      let (g, _) ← readWords .render false none {} words
      return (g.config, .render g.words g.vars g.assignments)
  | "parse" => do
      let (g, _) ← readWords .parse false none {} words
      match g.words with
      | [template] => return (g.config, .parse template)
      | _ => .error .usage
  | "processors" => do
      let (g, _) ← readWords .processors false none {} words
      return (g.config, .processors)
  | "help" => .error (if isTopic words then .help else .usage)
  | _ => .error .usage

/-- What the words of a command line ask for. -/
def Request.ofWords (words : List String) : Except Stop Request := do
  let (g, rest) ← readWords .outer true none {} words
  match rest with
  | [] => .error .usage
  | name :: words =>
      let (config, command) ← readCommand name words
      return { config := config.or g.config, command := command }

end Placeholder.CommandLine
