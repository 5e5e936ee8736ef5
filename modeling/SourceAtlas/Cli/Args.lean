/-
Command-line arguments. Options are long or short, take a value or none, and
may stand in any order with the positional arguments; short flags may be
written together, a value may follow its option directly, and `--` ends the
options. Before the command name only the options of the program itself are
read. A word that is no command is looked at as one of them once more, which
matters after `--`. An option value that counts something may have blanks around
the number, a plus sign and zeros before it, single underscores between its
digits, and a point with at least one digit after it, all of them zero; only the
ten ASCII digits count.

This stands for the `typer` package, which is no part of the program: the
options and commands are the program's own, the way they are written is the
package's. What is proved of commands is proved for any reader of arguments
(`Packages.call`), and this one is `Packages.standard`'s.

Consumed by `Cli.Basic`.
-/
import SourceAtlas.Text.Integer

namespace SourceAtlas.Cli

-- ============================================================= numbers

/-- Drops one plus sign. -/
def dropPlus : Text → Text
  | '+' :: rest => rest
  | rest => rest

/-- Drops the zeros before a number, and underscores among and after them. -/
def dropZeros (t : Text) : Text :=
  if ['0'].isPrefixOf t then t.dropWhile fun c => c == '0' || c == '_' else t

/-- Drops a point with one or more zeros and nothing else after it. -/
def dropFraction (t : Text) : Text :=
  match Text.cut? ['.'] t with
  | some (whole, fraction) =>
      if !fraction.isEmpty && fraction.all (· == '0') then whole else t
  | none => t

/-- The number of things that a text gives, at least one. -/
def amount? (t : Text) : Option Nat :=
  let digits :=
    dropFraction (dropZeros (dropPlus (Text.trimBoth Text.isNumeralBlank t)))
  if digits.all fun c => c.isDigit || c == '_' then
    (Text.natural? digits).filter fun n => 1 ≤ n
  else none

-- ============================================================= options

/-- What an option is about. -/
inductive OptionKey where
  | version
  | help
  | verbose
  | outputDir
  | workers
  | conceptLimit
  | format
  deriving DecidableEq, Repr

/-- An option: its long name, its letter, and whether it takes a value. -/
structure OptionSpec where
  key : OptionKey
  long : String
  short : Option Char
  takesValue : Bool
  deriving DecidableEq, Repr

/-- An option as given, with its value; flags have an empty one. -/
abbrev Given := OptionKey × Text

-- ============================================================= parsing

/-- The flags of a cluster of letters. The last one may be an option whose
value is the rest of the cluster or, if that is empty, the next argument. -/
def cluster? (specs : List OptionSpec) :
    Text → Option (List Given × Option OptionKey)
  | [] => some ([], none)
  | letter :: rest =>
    match specs.find? (·.short == some letter) with
    | none => none
    | some spec =>
      if spec.takesValue then
        if rest.isEmpty then some ([], some spec.key)
        else some ([(spec.key, rest)], none)
      else (cluster? specs rest).map fun (flags, waiting) =>
        ((spec.key, []) :: flags, waiting)

/-- Reads one argument that starts with a dash: the options that it gives,
and the one that waits for a value. -/
def option? (specs : List OptionSpec) (arg : Text) :
    Option (List Given × Option OptionKey) :=
  let (name, value) : Text × Option Text := match Text.cut? ['='] arg with
    | some (name, value) => (name, some value)
    | none => (arg, none)
  match specs.find? (·.long.toList == name) with
  | some spec =>
    match spec.takesValue, value with
    | true, some v => some ([(spec.key, v)], none)
    | true, none => some ([], some spec.key)
    | false, some _ => none
    | false, none => some ([(spec.key, [])], none)
  | none =>
      if ['-', '-'].isPrefixOf arg then none else cluster? specs (arg.drop 1)

/-- Whether an argument is read as an option. -/
def isOption (arg : Text) : Bool := ['-'].isPrefixOf arg && 1 < arg.length

/-- Options and positional arguments. Unless they may mix, the first
positional argument ends the options. -/
def parse? (specs : List OptionSpec) (mixed : Bool) :
    List Text → Option (List Given × List Text)
  | [] => some ([], [])
  | arg :: rest =>
    if arg = ['-', '-'] then some ([], rest)
    else if isOption arg then
      match option? specs arg with
      | none => none
      | some (given, none) =>
        (parse? specs mixed rest).map fun (more, positional) =>
          (given ++ more, positional)
      | some (given, some key) =>
        match rest with
        | [] => none
        | value :: rest =>
          (parse? specs mixed rest).map fun (more, positional) =>
            (given ++ (key, value) :: more, positional)
    else if mixed then
      (parse? specs mixed rest).map fun (given, positional) =>
        (given, arg :: positional)
    else some ([], arg :: rest)

-- ============================================================ requests

/-- The commands. -/
inductive Command where
  /-- Write the code index. -/
  | index
  /-- Write the dependency graph. -/
  | deps
  /-- Write both. -/
  | all
  /-- Show the detected profile. -/
  | detect
  deriving DecidableEq, Repr

namespace Command

/-- The command that a word names. -/
def ofText? (t : Text) : Option Command :=
  if t = "index".toList then some index
  else if t = "deps".toList then some deps
  else if t = "all".toList then some all
  else if t = "detect".toList then some detect
  else none

/-- The directory of the artifacts. -/
def outputOption : OptionSpec := ⟨.outputDir, "--output-dir", some 'o', true⟩

/-- The number of workers. -/
def workersOption : OptionSpec := ⟨.workers, "--workers", none, true⟩

/-- The number of files per concept. -/
def limitOption : OptionSpec := ⟨.conceptLimit, "--concept-limit", none, true⟩

/-- More lines while working. -/
def verboseOption : OptionSpec := ⟨.verbose, "--verbose", some 'V', false⟩

/-- The form of the graph. -/
def formatOption : OptionSpec := ⟨.format, "--format", some 'f', true⟩

/-- An explanation of the command. -/
def helpOption : OptionSpec := ⟨.help, "--help", none, false⟩

/-- The options of a command. -/
def options : Command → List OptionSpec
  | index =>
      [outputOption, workersOption, limitOption, verboseOption, helpOption]
  | deps =>
      [formatOption, outputOption, workersOption, verboseOption, helpOption]
  | all =>
      [formatOption, outputOption, workersOption, limitOption,
        verboseOption, helpOption]
  | detect => [verboseOption, helpOption]

end Command

/-- The options of the program itself. -/
def programOptions : List OptionSpec :=
  [⟨.version, "--version", some 'v', false⟩, ⟨.help, "--help", none, false⟩]

/-- What a command is asked to do. -/
structure Request where
  command : Command
  root : Text := ['.']
  outputDir : Option Text := none
  workers : Option Int := none
  conceptLimit : Option Int := none
  format : Text := "mermaid"
  deriving DecidableEq, Repr

/-- What an argument list asks for. -/
inductive Call where
  /-- The arguments make no sense. -/
  | misuse
  | help
  | version
  | run (r : Request)
  deriving DecidableEq, Repr

/-- The last value given for an option. -/
def lastValue? (given : List Given) (key : OptionKey) : Option Text :=
  (given.reverse.find? (·.1 == key)).map (·.2)

/-- Whether an option is given. -/
def has (given : List Given) (key : OptionKey) : Bool := given.any (·.1 == key)

/-- A number of things, if it is given. -/
def amountOf? (given : List Given) (key : OptionKey) : Option (Option Int) :=
  match lastValue? given key with
  | none => some none
  | some t => (amount? t).map fun n => some (Int.ofNat n)

/-- The root that the positional arguments give. No path holds a null
character. -/
def root? : List Text → Option Text
  | [] => some ['.']
  | [root] => if root.contains '\x00' then none else some root
  | _ => none

/-- The request that options and positional arguments make. -/
def request? (command : Command) (given : List Given) (positional : List Text) :
    Option Request := do
  let workers ← amountOf? given .workers
  let conceptLimit ← amountOf? given .conceptLimit
  let root ← root? positional
  return {
    command, root, workers, conceptLimit
    outputDir := lastValue? given .outputDir
    format := (lastValue? given .format).getD "mermaid".toList }

/-- What the arguments of a command ask for. -/
def commandCall (command : Command) (args : List Text) : Call :=
  match parse? command.options true args with
  | none => .misuse
  | some (given, positional) =>
    if has given .help then .help
    else match request? command given positional with
      | some r => .run r
      | none => .misuse

/-- What the first option of the program itself asks for, if one is given. -/
def programCall? : List Given → Option Call
  | (.version, _) :: _ => some .version
  | _ :: _ => some .help
  | [] => none

/-- What words that start with no command ask for: the first of them may be
an option of the program itself. -/
def wordCall (words : List Text) : Call :=
  match parse? programOptions false words with
  | some (given, _) => (programCall? given).getD .misuse
  | none => .misuse

/-- What an argument list asks for. -/
def call (args : List Text) : Call :=
  match parse? programOptions false args with
  | none => .misuse
  | some (given, positional) =>
    match programCall? given, positional with
    | some asked, _ => asked
    | none, [] => .misuse
    | none, word :: rest =>
      match Command.ofText? word with
      | some command => commandCall command rest
      | none => wordCall (word :: rest)

end SourceAtlas.Cli
