/-
Aliases of a project: those of its compiler configuration, found in one of
two files, combined with the configured and the built-in ones. How deep such a
file may be nested is a bound from outside.

Consumed by the choice of rules.
-/
import SourceAtlas.Import.Alias
import SourceAtlas.Json.Reader
import SourceAtlas.Number
import SourceAtlas.Tree.Basic

namespace SourceAtlas.Alias

/-- Whether a value counts as given: not null, false, zero or empty. -/
def isGiven : Json → Bool
  | .null => false
  | .bool b => b
  | .integer n => n != 0
  | .real r => !r.isZero
  | .string t => !t.isEmpty
  | .array items => !items.isEmpty
  | .object members => !members.isEmpty

/-- The base directory of a configuration: the project root unless given. -/
def baseOf (options : Json) : Json :=
  ((options.get? "baseUrl").filter isGiven).getD (.string ['.'])

/-- The compiler options that the text of a configuration file holds, if it
holds some. Comments and trailing commas are allowed there. -/
def optionsOf? (text : Text) : Option Json :=
  match Json.read text with
  | .error _ => none
  | .ok document =>
    (document.get? "compilerOptions").filter fun o => (o matches .object _)

/-- The text of a configuration file, if it can be opened, without comments
and trailing commas. -/
def configText? (root : Node) (name : Name) : Option Text :=
  (root.textAt? [name]).map Json.stripComments

/-- The compiler options of the first of some files that has any. A file that
is nested too deep ends the search. -/
def firstOptions (depth : Nat) (root : Node) :
    List Name → Except ConfigError (Option Json)
  | [] => .ok none
  | name :: rest =>
    match configText? root name with
    | none => firstOptions depth root rest
    | some text =>
      if depth < Json.nesting text then .error .tooDeep
      else
        match optionsOf? text with
        | some options => .ok (some options)
        | none => firstOptions depth root rest

/-- The names of configuration files, in order of preference. -/
def configNames : List Name := ["tsconfig.json".toList, "jsconfig.json".toList]

/-- The aliases of the first configuration file that has compiler options. -/
def ofConfig (depth : Nat) (root : Node) : Except ConfigError (List Alias) := do
  match ← firstOptions depth root configNames with
  | none => return []
  | some options => ofPaths (baseOf options) ((options.get? "paths").getD .null)

/-- The aliases in effect for a project. -/
def ofProject (depth : Nat) (root : Node)
    (configured : List (Text × List Text)) :
    Except ConfigError (List Alias) := do
  let fromConfig ← ofConfig depth root
  return combine fromConfig configured

end SourceAtlas.Alias
