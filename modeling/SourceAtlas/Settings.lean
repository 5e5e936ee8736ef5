/-
The settings of a run: defaults, then the settings file at the project root,
then what the command line overrides.

What reads a settings document is no part of the program, and how deep values
may be nested is not for it to say. Both come with the host of a run, and what
is said of runs is said for any host.

Consumed by the run and the command line.
-/
import SourceAtlas.Text.Integer
import SourceAtlas.Toml.Reader
import SourceAtlas.Tree.Basic

namespace SourceAtlas

/-- Why a settings document is not read. -/
inductive Toml.ReadError where
  /-- The text does not follow the grammar. -/
  | malformed
  /-- The reader itself breaks down on the text. -/
  | brokenDown
  deriving DecidableEq, Repr

/-- What a run is given from outside. -/
structure Host where
  /-- Reads a settings document. -/
  readSettings : Text → Except Toml.ReadError Toml
  /-- How deep a package manifest may be nested. -/
  manifestDepth : Nat
  /-- How deep a compiler configuration may be nested. -/
  configDepth : Nat
  /-- How deep a value of the settings may be nested that is wanted as a
  text. -/
  spellingDepth : Nat

/-- The host that the program is built with. -/
def Host.standard : Host where
  readSettings text :=
    match Toml.read? text with
    | some document => .ok document
    | none => .error .malformed
  manifestDepth := 980
  configDepth := 980
  spellingDepth := 980

/-- The settings of one run. -/
structure Settings where
  outputDir : Text := ".claude"
  conceptLimit : Int := 10
  workers : Int := 4
  /-- Globs of what to leave out, strictly increasing. -/
  exclude : List Text := []
  aliases : Table (List Text) := .empty
  deriving DecidableEq, Repr

namespace Settings

/-- The number of workers if none is asked for. -/
def fallbackWorkers : Int := 4

/-- The number of workers that a text asks for; texts that are no positive
integer ask for none in particular. -/
def workersOfText (raw : Option Text) : Int :=
  match raw.bind Text.integer? with
  | some n => if n < 1 then fallbackWorkers else n
  | none => fallbackWorkers

/-- The settings with some of them replaced; an empty output directory
replaces nothing. -/
def override (s : Settings) (outputDir : Option Text)
    (conceptLimit workers : Option Int) : Settings :=
  { s with
    outputDir := (outputDir.filter fun dir => !dir.isEmpty).getD s.outputDir
    conceptLimit := conceptLimit.getD s.conceptLimit
    workers := workers.getD s.workers }

-- =================================================== the settings file

/-- The name of the settings file. -/
def fileName : Name := ".codectx.toml"

/-- A positive limit, or the default. -/
def limitOr (default : Int) (value : Option Toml) : Int :=
  match value.bind Toml.limit? with
  | some n => if 0 < n then n else default
  | none => default

/-- The globs of an exclude list; anything but an array has none. -/
def excludeOf (depth : Nat) : Option Toml → Except Toml.SpellError (List Text)
  | some (.array items) => do
    let globs ← (items.filter Toml.isGiven).mapM (Toml.spell depth)
    return Ordered.ofList globs
  | _ => .ok []

/-- The targets of an alias: a text or an array. -/
def aliasTargets (depth : Nat) :
    Toml → Except Toml.SpellError (Option (List Text))
  | .string t => .ok (some [t])
  | .array items => do
    let targets ← items.mapM (Toml.spell depth)
    return some targets
  | _ => .ok none

/-- The aliases of a table. -/
def aliasesOf (depth : Nat) :
    Option Toml → Except Toml.SpellError (Table (List Text))
  | some (.table entries) => do
    let found ← entries.mapM fun (head, value) => do
      let targets ← aliasTargets depth value
      return targets.map fun targets => (head, targets)
    return Table.ofList (found.filterMap id)
  | _ => .ok .empty

/-- The settings that a document gives. Entries of the wrong kind are passed
over. -/
def ofDocument (depth : Nat) (document : Toml) :
    Except Toml.SpellError Settings := do
  let index := (document.get? "index").getD (.table [])
  let default : Settings := {}
  let exclude ← excludeOf depth (index.get? "exclude")
  let aliases ← aliasesOf depth (document.get? "aliases")
  return {
    outputDir := (((index.get? "output_dir").bind Toml.text?).filter fun dir =>
      !dir.isEmpty).getD default.outputDir
    conceptLimit := limitOr default.conceptLimit (index.get? "concept_limit")
    workers := limitOr default.workers (index.get? "workers")
    exclude, aliases }

/-- Why settings cannot be loaded. -/
inductive LoadError where
  /-- The settings file holds bytes that are no text. -/
  | notText
  /-- The reader of settings documents breaks down. -/
  | readerBrokenDown
  /-- A value that is wanted as a text cannot be written. -/
  | unwritable (e : Toml.SpellError)
  deriving DecidableEq, Repr

/-- The settings that the text of a settings file gives; a malformed text
gives the defaults. -/
def ofText (host : Host) (text : Text) : Except LoadError Settings :=
  match host.readSettings text with
  | .ok document =>
    (ofDocument host.spellingDepth document).mapError .unwritable
  | .error .malformed => .ok {}
  | .error .brokenDown => .error .readerBrokenDown

/-- The settings of a project: those of its settings file, or the defaults if
there is none or it cannot be opened. -/
def load (host : Host) (root : Node) : Except LoadError Settings :=
  match root.bytesAt? [fileName] with
  | none => .ok {}
  | some content =>
    match Utf8.decode? content with
    | none => .error .notText
    | some text => ofText host (Text.normalizeNewlines text)

end Settings

end SourceAtlas
