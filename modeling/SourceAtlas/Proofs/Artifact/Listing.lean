/-
What the digest of the project root tells. Every entry that counts has a line of
its own: names hold no slash, so the slash at the end of a line says that it
is a directory's (`ofLine_line`), and as long as no name holds a line feed the
lines are known from the text. The order of the lines is that of the bare names,
which may differ from the order of the lines themselves; but it is settled by
the entries, so two roots have the same lines if and only if the same entries
count (`listing_eq_iff`). UTF-8 keeps different texts apart, and the digest
is taken to do so for the two at hand.

- `Shows`: which entries count, and of which kind they are.
- `Changed`: an entry that was added or removed, or is of another kind.
- `every_change_at_the_root_shows`: the digest changes exactly with these.
-/
import SourceAtlas.Proofs.Artifact.Snapshot
import SourceAtlas.Proofs.Text.Utf8

namespace SourceAtlas

/-- The digest keeps two sequences of bytes apart, unless they are the same. -/
def Digest.Separates (x y : Utf8.Bytes) : Prop := sha256 x = sha256 y → x = y

instance (x y : Utf8.Bytes) : Decidable (Digest.Separates x y) :=
  inferInstanceAs (Decidable (_ → _))

namespace Snapshot

open Node

variable {before after : List (Name × Node)} {root first second : Table Node}
  {ignore ignore' : List Name} {name : Name}

-- ================================================================= lines

/-- The name and the kind that a line stands for. -/
def ofLine (t : Text) : Name × Bool :=
  if t.getLast? = some '/' then (t.dropLast, true) else (t, false)

/-- The line of a name is read back. -/
theorem ofLine_line {entry : Name × Bool} (h : '/' ∉ entry.1) :
    ofLine (line entry) = entry := by
  obtain ⟨name, isDirectory⟩ := entry
  cases isDirectory with
  | false =>
      have hlast : name.getLast? ≠ some '/' :=
        fun hslash => h (List.mem_of_getLast? hslash)
      exact if_neg hlast
  | true =>
      show ofLine (name ++ ['/']) = _
      rw [ofLine, if_pos List.getLast?_concat, List.dropLast_concat]

/-- A line is one line, and not empty. -/
theorem line_ne_nil_and_feed_notMem {entry : Name × Bool} (hname : entry.1 ≠ [])
    (hfeed : '\n' ∉ entry.1) : line entry ≠ [] ∧ '\n' ∉ line entry := by
  obtain ⟨name, isDirectory⟩ := entry
  cases isDirectory with
  | false => exact ⟨hname, hfeed⟩
  | true =>
      show name ++ ['/'] ≠ [] ∧ '\n' ∉ name ++ ['/']
      refine ⟨List.append_ne_nil_of_left_ne_nil hname _, fun hmem => ?_⟩
      rcases List.mem_append.mp hmem with hmem | hmem
      · exact hfeed hmem
      · exact absurd (List.mem_singleton.mp hmem) (by decide)

-- =============================================================== entries

/-- An entry at the root that counts: its name is not ignored, and it is a
directory or not. -/
def Shows (entries : List (Name × Node)) (ignore : List Name) (name : Name)
    (isDirectory : Bool) : Prop :=
  name ∉ ".git".toList :: ignore
    ∧ ∃ node, (name, node) ∈ entries ∧ node.isDirectory = isDirectory

/-- A name that has an entry in one of two roots alone, or entries of two
kinds. -/
inductive Changed (before after : List (Name × Node)) (name : Name) : Prop where
  | added (hbefore : before.lookup name = none)
      (hafter : after.lookup name ≠ none)
  | removed (hbefore : before.lookup name ≠ none)
      (hafter : after.lookup name = none)
  | turned {old new : Node} (hbefore : before.lookup name = some old)
      (hafter : after.lookup name = some new)
      (hkind : old.isDirectory ≠ new.isDirectory)

/-- The listing says which entries count. -/
theorem get?_shape_eq_some_iff {isDirectory : Bool} :
    (shape root ignore).get? name = some isDirectory
      ↔ Shows root.entries ignore name isDirectory := by
  rw [get?_shape, Shows]
  split
  case isTrue hignored => exact iff_of_false nofun fun h => h.1 hignored
  case isFalse hcounts =>
    rw [Option.map_eq_some_iff]
    simp only [Table.get?_eq_some_iff]
    exact (and_iff_right hcounts).symm

theorem changed_iff : Changed before after name ↔
    (before.lookup name).map isDirectory
      ≠ (after.lookup name).map isDirectory := by
  constructor
  · intro h
    cases h with
    | added hbefore hafter =>
        obtain ⟨new, hnew⟩ := Option.ne_none_iff_exists'.mp hafter
        rw [hbefore, hnew]
        exact nofun
    | removed hbefore hafter =>
        obtain ⟨old, hold⟩ := Option.ne_none_iff_exists'.mp hbefore
        rw [hafter, hold]
        exact nofun
    | turned hbefore hafter hkind =>
        rw [hbefore, hafter]
        exact fun h => hkind (Option.some.inj h)
  · intro h
    cases hbefore : before.lookup name with
    | none =>
        refine .added hbefore fun hafter => h ?_
        rw [hbefore, hafter]
    | some old =>
        cases hafter : after.lookup name with
        | none => exact .removed (by rw [hbefore]; exact nofun) hafter
        | some new =>
            refine .turned hbefore hafter fun hkind => h ?_
            rw [hbefore, hafter, Option.map_some, Option.map_some, hkind]

-- =============================================================== listing

/-- The names at a root are names, and each stands on one line. -/
def Lined (root : Table Node) : Prop :=
  ∀ entry ∈ root.entries, Path.IsName entry.1 ∧ '\n' ∉ entry.1

/-- What is listed is an entry of the root. -/
theorem exists_of_mem_sorted_shape {entry : Name × Bool}
    (h : entry ∈ (shape root ignore).sorted) :
    ∃ node, (entry.1, node) ∈ root.entries := by
  obtain ⟨⟨name, node⟩, hentry, rfl⟩ :=
    List.mem_map.mp ((Table.sorted_perm (shape root ignore)).mem_iff.mp h)
  exact ⟨node, (List.mem_filter.mp hentry).1⟩

/-- The lines of a root are not empty and stand for themselves. -/
theorem Lined.line (h : Lined root) :
    ∀ text ∈ (shape root ignore).sorted.map line, text ≠ [] ∧ '\n' ∉ text := by
  intro text htext
  obtain ⟨entry, hentry, rfl⟩ := List.mem_map.mp htext
  obtain ⟨node, hnode⟩ := exists_of_mem_sorted_shape hentry
  obtain ⟨hname, hfeed⟩ := h _ hnode
  exact line_ne_nil_and_feed_notMem hname.ne_nil hfeed

/-- The entries that a root lists are read back from its lines. -/
theorem Lined.map_ofLine (h : Lined root) :
    ((shape root ignore).sorted.map Snapshot.line).map ofLine
      = (shape root ignore).sorted := by
  rw [List.map_map]
  refine (List.map_congr_left fun entry hentry => ?_).trans (List.map_id _)
  obtain ⟨node, hnode⟩ := exists_of_mem_sorted_shape hentry
  exact ofLine_line (h _ hnode).1.slash_not_mem

/-- Two roots have the same listing if the same entries count, and only then. -/
theorem listing_eq_iff (hfirst : Lined first) (hsecond : Lined second) :
    listing first.entries ignore = listing second.entries ignore' ↔
      ∀ name, (shape first ignore).get? name
        = (shape second ignore').get? name := by
  rw [← Table.sorted_eq_iff, listing_eq, listing_eq]
  constructor
  · intro h
    rw [← hfirst.map_ofLine, Text.join_inj hfirst.line hsecond.line h,
      hsecond.map_ofLine]
  · intro h
    rw [h]

-- =========================================================== the theorem

/-- The bytes of which the digest of a root is made are those of another
root exactly if the same entries count, by name and kind. So the digest
changes, unless it confuses the two, exactly if an entry that is not ignored was
added or removed or is of another kind; a new name is both. -/
theorem every_change_at_the_root_shows
    (hbefore : (directory before).wellFormed = true)
    (hafter : (directory after).wellFormed = true)
    (hlines : ∀ entry ∈ before, '\n' ∉ entry.1)
    (hlines' : ∀ entry ∈ after, '\n' ∉ entry.1) (ignore ignore' : List Name) :
    (Utf8.encode (listing before ignore) = Utf8.encode (listing after ignore') ↔
      ∀ name isDirectory,
        Shows before ignore name isDirectory
          ↔ Shows after ignore' name isDirectory)
    ∧ (Digest.Separates (Utf8.encode (listing before ignore))
      (Utf8.encode (listing after ignore)) →
      (hashOfStructure before ignore ≠ hashOfStructure after ignore ↔
        ∃ name ∉ ".git".toList :: ignore, Changed before after name)) := by
  obtain ⟨hnodup, hnodes⟩ := wellFormed_directory.mp hbefore
  obtain ⟨hnodup', hnodes'⟩ := wellFormed_directory.mp hafter
  -- the two roots as tables
  have hlined : Lined ⟨before, hnodup⟩ :=
    fun entry hentry => ⟨(hnodes entry hentry).1, hlines entry hentry⟩
  have hlined' : Lined ⟨after, hnodup'⟩ :=
    fun entry hentry => ⟨(hnodes' entry hentry).1, hlines' entry hentry⟩
  have hbytes (ignore' : List Name) :
      Utf8.encode (listing before ignore)
          = Utf8.encode (listing after ignore') ↔
        ∀ name, (shape ⟨before, hnodup⟩ ignore).get? name
          = (shape ⟨after, hnodup'⟩ ignore').get? name :=
    Utf8.encode_injective.eq_iff.trans (listing_eq_iff hlined hlined')
  constructor
  · rw [hbytes]
    refine forall_congr' fun name => ?_
    rw [Option.ext_iff]
    refine forall_congr' fun isDirectory => ?_
    rw [get?_shape_eq_some_iff, get?_shape_eq_some_iff]
  · intro hseparates
    have hhash : hashOfStructure before ignore = hashOfStructure after ignore ↔
        ∀ name, (shape ⟨before, hnodup⟩ ignore).get? name
          = (shape ⟨after, hnodup'⟩ ignore).get? name := by
      rw [← hbytes]
      exact ⟨hseparates, congrArg Digest.sha256⟩
    rw [Ne, hhash, Classical.not_forall]
    refine exists_congr fun name => ?_
    rw [get?_shape, get?_shape, changed_iff, Table.get?, Table.get?]
    by_cases hname : name ∈ ".git".toList :: ignore
    · rw [if_pos hname, if_pos hname]
      exact iff_of_false (fun h => h rfl) fun h => h.1 hname
    · rw [if_neg hname, if_neg hname]
      exact (and_iff_right hname).symm

/-- A directory becomes a file. The order of the names is that of `a` and `a-b`
before and after, while `a/` would come after `a-b`; and the repository and the
ignored directory may come and go. -/
theorem every_change_at_the_root_shows_turned :
    ∃ before after : List (Name × Node),
      before = [("a-b".toList, .dangling), ("a".toList, .directory []),
        (".git".toList, .directory [])]
      ∧ after = [("a".toList, .file [] true), ("a-b".toList, .dangling),
        (".claude".toList, .directory [])]
      ∧ (directory before).wellFormed = true
      ∧ (directory after).wellFormed = true
      ∧ listing before [".claude".toList] = "a/\na-b".toList
      ∧ Digest.Separates (Utf8.encode (listing before [".claude".toList]))
          (Utf8.encode (listing after [".claude".toList]))
      ∧ hashOfStructure before [".claude".toList]
        ≠ hashOfStructure after [".claude".toList] := by
  have hbefore :
      (directory [("a-b".toList, .dangling), ("a".toList, .directory []),
        (".git".toList, .directory [])]).wellFormed = true := by decide
  have hafter :
      (directory [("a".toList, .file [] true), ("a-b".toList, .dangling),
        (".claude".toList, .directory [])]).wellFormed = true := by decide
  obtain ⟨-, hhash⟩ :=
    every_change_at_the_root_shows hbefore hafter (by decide) (by decide)
      [".claude".toList] [".claude".toList]
  refine ⟨_, _, rfl, rfl, hbefore, hafter, by decide, by decide +kernel, ?_⟩
  exact (hhash (by decide +kernel)).mpr
    ⟨"a".toList, by decide, .turned rfl rfl (by decide)⟩

end Snapshot

end SourceAtlas
