/-
Reading a settings document: statements one a line, each a key with a value,
a table header or the header of the next table of an array. A document that
assigns a key twice or opens a table twice is refused.

This stands for `load` of the `toml` package, which is no part of the program:
a reader for the documents that the package and the format agree on, by which
the program can be run. What is proved of runs is proved for any reader
(`Host.readSettings`), and this one is `Host.standard`'s.

Consumed by the settings.
-/
import SourceAtlas.Toml.Scalar

namespace SourceAtlas.Toml

/-- A table key with the keys of the tables around it. -/
abbrev KeyPath := List Text

/-- White space inside a line. -/
def isSpace (c : Char) : Bool := c == ' ' || c == '\t'

/-- Drops white space inside a line. -/
def skipSpace (t : Text) : Text := t.dropWhile isSpace

/-- Drops white space, line feeds and comments; the first argument bounds the
number of comments. -/
def skipFiller : Nat → Text → Text
  | 0, t => t
  | fuel + 1, t =>
    match t.dropWhile fun c => isSpace c || c == '\n' with
    | '#' :: rest => skipFiller fuel (rest.dropWhile (· != '\n'))
    | rest => rest

-- ================================================================ keys

/-- Characters of a key without quotes. -/
def isBareKey (c : Char) : Bool := c.isAlphanum || c == '_' || c == '-'

/-- One key. -/
def simpleKey? (t : Text) : Option (Text × Text) :=
  match t with
  | '\x22' :: rest => lineString? (rest.length + 1) [] rest
  | '\x27' :: rest => literalString? rest
  | _ =>
    let key := t.takeWhile isBareKey
    if key.isEmpty then none else some (key, t.dropWhile isBareKey)

/-- Keys with dots between them. -/
def keyPath? : Nat → Text → Option (KeyPath × Text)
  | 0, _ => none
  | fuel + 1, t => do
    let (key, rest) ← simpleKey? (skipSpace t)
    match skipSpace rest with
    | '.' :: more =>
      let (keys, rest) ← keyPath? fuel more
      return (key :: keys, rest)
    | rest => return ([key], rest)

-- ============================================================== tables

/-- Assigns a value below the entries of a table, making tables on the way. A
key that has a value already, or a key on the way that is no table, is
refused; an array of tables stands for its last table. -/
def assign? : KeyPath → Toml → List (Text × Toml) → Option (List (Text × Toml))
  | [], _, _ => none
  | [key], value, entries =>
    if (entries.lookup key).isSome then none
    else some (entries ++ [(key, value)])
  | key :: rest, value, entries =>
    match entries.lookup key with
    | none =>
        (assign? rest value []).map fun inner =>
          entries ++ [(key, .table inner)]
    | some (.table inner) =>
      (assign? rest value inner).map fun inner =>
        Table.putEntry key (.table inner) entries
    | some (.array items) =>
      match items.getLast? with
      | some (.table inner) => (assign? rest value inner).map fun inner =>
          Table.putEntry key (.array (items.dropLast ++ [.table inner])) entries
      | _ => none
    | some _ => none

/-- Opens a table: makes it unless it is there. -/
def openTable? : KeyPath → List (Text × Toml) → Option (List (Text × Toml))
  | [], entries => some entries
  | key :: rest, entries =>
    match entries.lookup key with
    | none =>
        (openTable? rest []).map fun inner => entries ++ [(key, .table inner)]
    | some (.table inner) =>
      (openTable? rest inner).map fun inner =>
        Table.putEntry key (.table inner) entries
    | some (.array items) =>
      match rest, items.getLast? with
      | _ :: _, some (.table inner) => (openTable? rest inner).map fun inner =>
          Table.putEntry key (.array (items.dropLast ++ [.table inner])) entries
      | _, _ => none
    | some _ => none

/-- Adds a table to an array of tables. -/
def addTable? : KeyPath → List (Text × Toml) → Option (List (Text × Toml))
  | [], _ => none
  | [key], entries =>
    match entries.lookup key with
    | none => some (entries ++ [(key, .array [.table []])])
    | some (.array items) =>
      if items.all fun item => (item matches .table _) then
        some (Table.putEntry key (.array (items ++ [.table []])) entries)
      else none
    | some _ => none
  | key :: rest, entries =>
    match entries.lookup key with
    | none =>
        (addTable? rest []).map fun inner => entries ++ [(key, .table inner)]
    | some (.table inner) =>
      (addTable? rest inner).map fun inner =>
        Table.putEntry key (.table inner) entries
    | some (.array items) =>
      match items.getLast? with
      | some (.table inner) => (addTable? rest inner).map fun inner =>
          Table.putEntry key (.array (items.dropLast ++ [.table inner])) entries
      | _ => none
    | some _ => none

-- ============================================================== values

mutual

/-- A value at the start of a text. -/
def value? : Nat → Text → Option (Toml × Text)
  | 0, _ => none
  | fuel + 1, t =>
    match t with
    | '\x22' :: _ => (string? t).map fun (s, rest) => (.string s, rest)
    | '\x27' :: _ => (string? t).map fun (s, rest) => (.string s, rest)
    | '[' :: rest => items? fuel [] (skipFiller (rest.length + 1) rest)
    | '\x7b' :: rest =>
      match skipSpace rest with
      | '\x7d' :: rest => some (.table [], rest)
      | rest => inlineEntries? fuel [] rest
    | _ => scalar? t

/-- The items of an array from one of them on, with those before it, last
first. -/
def items? : Nat → List Toml → Text → Option (Toml × Text)
  | 0, _, _ => none
  | fuel + 1, acc, t =>
    match t with
    | ']' :: rest => some (.array acc.reverse, rest)
    | _ => do
      let (item, rest) ← value? fuel t
      match skipFiller (rest.length + 1) rest with
      | ',' :: more =>
          items? fuel (item :: acc) (skipFiller (more.length + 1) more)
      | ']' :: more => return (.array (item :: acc).reverse, more)
      | _ => none

/-- The entries of a table on one line from one of them on, with those before
it. -/
def inlineEntries? : Nat → List (Text × Toml) → Text → Option (Toml × Text)
  | 0, _, _ => none
  | fuel + 1, acc, t => do
    let (keys, rest) ← keyPath? (t.length + 1) t
    match rest with
    | '=' :: rest =>
      let (value, rest) ← value? fuel (skipSpace rest)
      let entries ← assign? keys value acc
      match skipSpace rest with
      | ',' :: more => inlineEntries? fuel entries (skipSpace more)
      | '\x7d' :: more => return (.table entries, more)
      | _ => none
    | _ => none

end

-- ========================================================== statements

/-- A document being read: its entries, the table that assignments go to, the
tables that have a header, those that dots in a key have made, and the keys
that have a value of their own. -/
structure Draft where
  entries : List (Text × Toml) := []
  current : KeyPath := []
  opened : List KeyPath := []
  dotted : List KeyPath := []
  assigned : List KeyPath := []

/-- Whether a header may not name a path: it was opened or made before, or it
leads through a key with a value of its own. -/
def Draft.refuses (d : Draft) (path : KeyPath) : Bool :=
  d.opened.contains path || d.dotted.contains path
    || d.assigned.any (·.isPrefixOf path)

/-- The tables that the dots of a key lead through. -/
def Draft.passed (d : Draft) (keys : KeyPath) : List KeyPath :=
  (List.range (keys.length - 1)).map fun n => d.current ++ keys.take (n + 1)

/-- Whether the dots of a key may not lead through a table: it has a header
or a value of its own. -/
def Draft.blocks (d : Draft) (path : KeyPath) : Bool :=
  d.opened.contains path || d.assigned.contains path

/-- The rest of a line after a statement: white space and a comment. -/
def lineEnd? (t : Text) : Option Text :=
  match skipSpace t with
  | [] => some []
  | '\n' :: rest => some rest
  | '#' :: rest => some (rest.dropWhile (· != '\n'))
  | _ => none

/-- One statement. -/
def statement? (d : Draft) (t : Text) : Option (Draft × Text) :=
  match t with
  | '[' :: '[' :: rest => do
    let (path, rest) ← keyPath? (rest.length + 1) rest
    match rest with
    | ']' :: ']' :: rest =>
      if d.assigned.any (·.isPrefixOf path) then none
      else
        let entries ← addTable? path d.entries
        let below := fun p : KeyPath => path.isPrefixOf p
        return (⟨entries, path, d.opened.filter (!below ·),
          d.dotted.filter (!below ·), d.assigned.filter (!below ·)⟩, rest)
    | _ => none
  | '[' :: rest => do
    let (path, rest) ← keyPath? (rest.length + 1) rest
    match rest with
    | ']' :: rest =>
      if d.refuses path then none
      else
        let entries ← openTable? path d.entries
        return ({ d with entries, current := path, opened := path :: d.opened },
          rest)
    | _ => none
  | _ => do
    let (keys, rest) ← keyPath? (t.length + 1) t
    match rest with
    | '=' :: rest =>
      let (value, rest) ← value? (rest.length + 1) (skipSpace rest)
      let passed := d.passed keys
      if passed.any d.blocks then none
      else
        let path := d.current ++ keys
        let entries ← assign? path value d.entries
        return ({ d with
          entries
          dotted := passed ++ d.dotted
          assigned := path :: d.assigned }, rest)
    | _ => none

/-- All statements; the first argument bounds their number. -/
def statements? : Nat → Draft → Text → Option (List (Text × Toml))
  | 0, _, _ => none
  | fuel + 1, d, t =>
    match skipFiller (t.length + 1) t with
    | [] => some d.entries
    | rest => do
      let (d, rest) ← statement? d rest
      let rest ← lineEnd? rest
      statements? fuel d rest

/-- The top table of a document, if the text is one. -/
def read? (t : Text) : Option Toml :=
  (statements? (t.length + 1) {} t).map .table

end SourceAtlas.Toml
