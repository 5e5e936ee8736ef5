/-
Shell-style globs: `*` for any text, `?` for any character, `[…]` for one
character of a set, `[!…]` for one outside it, and every other character for
itself. A bracket that is never closed stands for itself. A glob matches
whole texts and treats slashes and line feeds as ordinary characters.

Consumed by the survey.
-/
import SourceAtlas.Text.Basic

namespace SourceAtlas

/-- One part of a glob. -/
inductive GlobPart where
  /-- Any text. -/
  | star
  /-- One character of a class. -/
  | one (accepts : Char → Bool)

namespace Glob

-- ======================================================= bracket sets

/-- The inside of a bracket expression, if it is closed. A closing bracket
right at its start, or after the negation, belongs to the set. -/
def bracket? (t : Text) : Option Text :=
  let (lead, tail) : Text × Text := match t with
    | '!' :: ']' :: rest => (['!', ']'], rest)
    | '!' :: rest => (['!'], rest)
    | ']' :: rest => ([']'], rest)
    | rest => ([], rest)
  if tail.contains ']' then some (lead ++ tail.takeWhile (· != ']')) else none

/-- Cuts a set at the hyphens that make ranges. The first `guard` characters
make none, nor do the two characters after a cut, nor a hyphen at the end;
`current` holds the chunk being read, last character first. -/
def chunks : Nat → Text → Text → List Text
  | _, current, [] => [current.reverse]
  | guard + 1, current, c :: rest => chunks guard (c :: current) rest
  | 0, current, '-' :: c :: rest => current.reverse :: chunks 2 [] (c :: rest)
  | 0, current, c :: rest => chunks 0 (c :: current) rest

/-- Drops the ranges that run downwards, from the right: their two ends go,
and the chunks around them become one. -/
def dropDownward : List Text → List Text
  | [] => []
  | chunk :: rest =>
    match dropDownward rest with
    | [] => [chunk]
    | next :: more =>
      match chunk.getLast?, next.head? with
      | some low, some high =>
        if high < low then (chunk.dropLast ++ next.tail) :: more
        else chunk :: next :: more
      | _, _ => chunk :: next :: more

/-- The characters of a set in order, with `none` for a hyphen that makes a
range. -/
def marks (set : Text) : List (Option Char) :=
  let guard := if ['!'].isPrefixOf set then 2 else 1
  List.flatten ((dropDownward (chunks guard [] set)).map (·.map some)
    |>.intersperse [none])

/-- Whether a character is in a set of single characters and ranges. -/
def inMarks (c : Char) : List (Option Char) → Bool
  | some low :: none :: some high :: rest =>
      (low ≤ c && c ≤ high) || inMarks c rest
  | some x :: rest => c == x || inMarks c rest
  | none :: rest => c == '-' || inMarks c rest
  | [] => false

/-- Whether a character is in the set that the inside of a bracket denotes.
A set of which nothing is left holds no character, its negation all. -/
def inSet (set : Text) (c : Char) : Bool :=
  match marks set with
  | some '!' :: rest => !inMarks c rest
  | found => inMarks c found

-- ============================================================ matching

/-- `parse` after `skip` more characters. -/
def parseFrom : Nat → Text → List GlobPart
  | _, [] => []
  | skip + 1, _ :: rest => parseFrom skip rest
  | 0, c :: rest =>
    if c = '*' then .star :: parseFrom 0 rest
    else if c = '?' then .one (fun _ => true) :: parseFrom 0 rest
    else if c = '[' then
      match bracket? rest with
      | some set => .one (inSet set) :: parseFrom (set.length + 1) rest
      | none => .one (· == '[') :: parseFrom 0 rest
    else .one (· == c) :: parseFrom 0 rest

/-- The parts of a glob. -/
def parse (glob : Text) : List GlobPart := parseFrom 0 glob

/-- Whether a property holds of the text or of something at its end. -/
def anySuffix (p : Text → Bool) : Text → Bool
  | [] => p []
  | c :: rest => p (c :: rest) || anySuffix p rest

/-- Whether the parts match the whole text. -/
def matchParts : List GlobPart → Text → Bool
  | [], t => t.isEmpty
  | .star :: parts, t => anySuffix (matchParts parts) t
  | .one accepts :: parts, c :: rest => accepts c && matchParts parts rest
  | .one _ :: _, [] => false

/-- Whether a glob matches a whole text. -/
def accepts (glob t : Text) : Bool := matchParts (parse glob) t

end Glob

end SourceAtlas
