/-
Text as a list of code points, with the operations the rest of the library
is written in: splitting, joining, trimming, cutting at a separator, line
numbers and duplicate removal. Offsets, lengths and order are by code
point.

Everything else in the library is built on this file.
-/

namespace SourceAtlas

/-- Text is a list of code points. -/
abbrev Text := List Char

/-- String literals denote texts. -/
instance : Coe String Text := ⟨String.toList⟩

namespace Text

/-- What is said of all characters of a text is decided along the text. The
instance takes precedence because characters are finitely many, and an instance
for finite types would go through all of them. -/
instance (priority := 2000) decidableForallMem (p : Char → Prop)
    [DecidablePred p] (t : Text) : Decidable (∀ c ∈ t, p c) :=
  List.decidableBAll p t

-- ================================================== splitting, joining

/-- The pieces between the separators; there is always at least one. -/
def split (sep : Char) : Text → List Text
  | [] => [[]]
  | c :: rest =>
    if c = sep then [] :: split sep rest
    else match split sep rest with
      | [] => [[c]]
      | piece :: pieces => (c :: piece) :: pieces

/-- The pieces with the separator between them. -/
def join (sep : Text) : List Text → Text
  | [] => []
  | [piece] => piece
  | piece :: pieces => piece ++ sep ++ join sep pieces

/-- `splitSeq` with the first `skip` characters already used up by the
separator before them. -/
def splitSeqFrom (sep : Text) : Nat → Text → List Text
  | _, [] => [[]]
  | skip + 1, _ :: rest => splitSeqFrom sep skip rest
  | 0, c :: rest =>
    if sep.isPrefixOf (c :: rest)
      then [] :: splitSeqFrom sep (sep.length - 1) rest
    else match splitSeqFrom sep 0 rest with
      | [] => [[c]]
      | piece :: pieces => (c :: piece) :: pieces

/-- The pieces between the occurrences of a non-empty separator, found from
the left. -/
def splitSeq (sep t : Text) : List Text := splitSeqFrom sep 0 t

/-- The text before and after the first occurrence of `sep`. -/
def cut? (sep : Text) : Text → Option (Text × Text)
  | [] => if sep = [] then some ([], []) else none
  | c :: rest =>
    if sep.isPrefixOf (c :: rest) then some ([], (c :: rest).drop sep.length)
    else (cut? sep rest).map fun (before, after) => (c :: before, after)

/-- The text before and after the last occurrence of `sep`. -/
def cutLast? (sep : Text) : Text → Option (Text × Text)
  | [] => if sep = [] then some ([], []) else none
  | c :: rest =>
    match cutLast? sep rest with
    | some (before, after) => some (c :: before, after)
    | none =>
      if sep.isPrefixOf (c :: rest) then some ([], (c :: rest).drop sep.length)
      else none

/-- The text before the first occurrence of `sep`, or all of it. -/
def before (sep t : Text) : Text := ((cut? sep t).map (·.1)).getD t

/-- The text after the last occurrence of `sep`, or all of it. -/
def afterLast (sep t : Text) : Text := ((cutLast? sep t).map (·.2)).getD t

/-- Whether `part` occurs in the text. -/
def holds (part t : Text) : Bool := (cut? part t).isSome

-- ============================================================ trimming

/-- Drops the trailing characters that satisfy `p`. -/
def trimEnd (p : Char → Bool) (t : Text) : Text :=
  (t.reverse.dropWhile p).reverse

/-- Drops the leading and the trailing characters that satisfy `p`. -/
def trimBoth (p : Char → Bool) (t : Text) : Text := trimEnd p (t.dropWhile p)

/-- Replaces each occurrence of one character by a text. -/
def replaceChar (old : Char) (new : Text) (t : Text) : Text :=
  t.flatMap fun c => if c = old then new else [c]

-- =============================================================== order

/-- Whether a text comes no later than another one by code points. -/
def le (a b : Text) : Bool := !decide (b < a)

-- ==================================================== lines, duplicates

/-- The 1-based number of the line that holds the character at `offset`. -/
def lineAt (t : Text) (offset : Nat) : Nat := (t.take offset).count '\n' + 1

/-- The non-empty items, each at its first occurrence only. -/
def dedupe (items : List Text) : List Text :=
  (items.filter fun item => !item.isEmpty).eraseDups

/-- The decimal digits of a natural number. -/
def ofNat (n : Nat) : Text := Nat.toDigits 10 n

/-- The decimal digits of an integer, with a sign if it is negative. -/
def ofInt : Int → Text
  | .ofNat n => ofNat n
  | .negSucc n => '-' :: ofNat (n + 1)

end Text

end SourceAtlas
