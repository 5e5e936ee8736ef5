/-
Path aliases of script imports: a specifier that starts with an alias, or
equals it, stands for paths below the project root. Aliases come from the
settings, from a compiler configuration and from a built-in default, in that
order of precedence.

Consumed by script resolution.
-/
import SourceAtlas.Json.Basic
import SourceAtlas.Ordered
import SourceAtlas.Path

namespace SourceAtlas

/-- An alias: what a specifier starts with, or equals if the alias is not a
wildcard, and what that part is replaced by, in order of preference. -/
structure Alias where
  head : Text
  targets : List Text
  wildcard : Bool := true
  deriving DecidableEq, Repr

namespace Alias

/-- The paths that a specifier stands for under an alias. -/
def expand (a : Alias) (specifier : Text) : List Text :=
  if a.wildcard then
    if a.head.isPrefixOf specifier then
      a.targets.map fun target => target ++ specifier.drop a.head.length
    else []
  else if specifier = a.head then a.targets else []

-- ============================================ compiler configurations

/-- Why a configuration gives no aliases. -/
inductive ConfigError where
  /-- The configuration is nested too deep. -/
  | tooDeep
  /-- The base directory is used and is no text. -/
  | baseNotText
  deriving DecidableEq, Repr

/-- One target of an entry. A wildcard takes targets that end in a star only
and keeps what precedes it as a directory. -/
def target? (base : Json) (wildcard : Bool) :
    Json → Except ConfigError (Option Text)
  | .string target =>
    if wildcard && !(['*'].isSuffixOf target) then .ok none
    else
      match base with
      | .string base =>
        if wildcard then
          let stem := target.dropLast
          let joined :=
            Path.normal (Path.join base (if stem.isEmpty then ['.'] else stem))
          .ok (some (if joined = ['.'] then [] else joined ++ ['/']))
        else .ok (some (Path.normal (Path.join base target)))
      | _ => .error .baseNotText
  | _ => .ok none

/-- The aliases of one entry: none if no target remains. -/
def ofEntry (base : Json) (key : Text) : Json → Except ConfigError (List Alias)
  | .array targets => do
    let wildcard := ['*'].isSuffixOf key
    let head := if wildcard then key.dropLast else key
    let found ← targets.mapM (target? base wildcard)
    let resolved := found.filterMap id
    return if resolved.isEmpty || head.isEmpty then []
      else [⟨head, resolved, wildcard⟩]
  | _ => .ok []

/-- The aliases of a table of paths; anything else has none. -/
def ofPaths (base : Json) : Json → Except ConfigError (List Alias)
  | .object entries => do
    let found ← entries.mapM fun (key, targets) => ofEntry base key targets
    return found.flatten
  | _ => .ok []

-- ========================================================= combination

/-- Replaces the alias for the same specifiers, or adds one. -/
def assign (aliases : List Alias) (a : Alias) : List Alias :=
  (aliases.filter fun b => !(b.head == a.head && b.wildcard == a.wildcard))
    ++ [a]

/-- Exact aliases come first, then longer heads, then smaller heads. -/
def precedes (a b : Alias) : Bool :=
  if a.wildcard ≠ b.wildcard then !a.wildcard
  else if a.head.length ≠ b.head.length then b.head.length < a.head.length
  else Text.le a.head b.head

/-- The built-in alias. -/
def builtIn : Alias := ⟨['@', '/'], ["src/".toList, []], true⟩

/-- The aliases in effect: later sources replace earlier ones. -/
def combine (fromConfig : List Alias) (configured : List (Text × List Text)) :
    List Alias :=
  Ordered.sortBy precedes
    ((fromConfig ++ configured.map fun (head, targets) =>
      Alias.mk head targets true).foldl assign [builtIn])

end Alias

end SourceAtlas
