/-
Replacing an artifact is all or nothing. A write goes through two states that
nobody may be left with: the temporary file is there, and it is filled. Both
are the tree before with one file more (`Staged`), so that removing the file
gives that tree back, and moving it gives the tree with the new content where
the artifact is (`Placed`).

- `writeWith_eq_error`, `writeWith_eq_ok`: what a write leaves behind, struck
  by an interruption or not.
- `Wrote.append`: what writing one artifact after another leaves behind.
- `write_is_atomic`: the files of the tree before, or these with the artifact
  replaced.

Consumed by the theory of the command line.
-/
import SourceAtlas.Artifact.Store
import SourceAtlas.Proofs.Path.Plain
import SourceAtlas.Proofs.Tree.Edit

namespace SourceAtlas

open Utf8 (Bytes)

namespace Node

variable {tree staged left made : Node} {path place temporary : List Name}
  {content old : Bytes}

-- ============================================================ one file more

/-- The tree `staged` is `tree` with a new file at `temporary`. -/
structure Staged (tree : Node) (temporary : List Name) (content : Bytes)
    (staged : Node) : Prop where
  inside : ∃ above name, temporary = above ++ [name]
    ∧ tree.kindAt above = some .directory
  free : tree.kindAt temporary = none
  kindAt_eq : ∀ q, staged.kindAt q
    = if q = temporary then some (.file content true) else tree.kindAt q

theorem staged_createFile (h : tree.createFile path = .ok (temporary, made)) :
    Staged tree temporary [] made := by
  obtain ⟨above, name, hparent, rfl, hfree, rfl⟩ := createFile_eq_ok h
  obtain ⟨up, -, -, -, habove⟩ := parentPlace_eq_ok hparent
  refine ⟨⟨above, name, rfl, habove⟩, hfree, ?_⟩
  exact kindAt_put habove (by rw [hfree]; exact nofun)
    (bare_of_isDirectory_eq_false rfl)

namespace Staged

theorem kindAt_of_ne (h : Staged tree temporary content staged) {q : List Name}
    (hq : q ≠ temporary) : staged.kindAt q = tree.kindAt q := by
  rw [h.kindAt_eq, if_neg hq]

/-- The temporary file has the staged content. -/
theorem kindAt_self (h : Staged tree temporary content staged) :
    staged.kindAt temporary = some (.file content true) := by
  rw [h.kindAt_eq, if_pos rfl]

theorem ne_of_directory (h : Staged tree temporary content staged)
    {q : List Name} (hq : staged.kindAt q = some .directory) :
    q ≠ temporary := by
  rintro rfl
  rw [h.kindAt_self] at hq
  cases hq

/-- The directories are those that were there. -/
theorem kindAt_eq_directory_iff (h : Staged tree temporary content staged)
    {q : List Name} :
    staged.kindAt q = some .directory ↔ tree.kindAt q = some .directory := by
  constructor
  · intro hq
    rw [← h.kindAt_of_ne (h.ne_of_directory hq)]
    exact hq
  · intro hq
    rw [h.kindAt_of_ne, hq]
    rintro rfl
    rw [h.free] at hq
    cases hq

/-- Writing to the temporary file leaves it staged, with the new content. -/
theorem fill (h : Staged tree temporary old staged) (content : Bytes) :
    Staged tree temporary content
      (staged.put temporary (.file content true)) := by
  obtain ⟨above, name, rfl, habove⟩ := h.inside
  refine ⟨h.inside, h.free, ?_⟩
  intro q
  rw [kindAt_put (h.kindAt_eq_directory_iff.mpr habove)
    (by rw [h.kindAt_self]; exact nofun) (bare_of_isDirectory_eq_false rfl),
    h.kindAt_eq]
  split
  case isTrue => rfl
  case isFalse => rfl

/-- Removing the new file gives the tree back. -/
theorem discard (h : Staged tree temporary content staged) (q : List Name) :
    (staged.erase temporary).kindAt q = tree.kindAt q := by
  obtain ⟨above, name, rfl, habove⟩ := h.inside
  rw [kindAt_erase (h.kindAt_eq_directory_iff.mpr habove)
    (by rw [h.kindAt_self]; exact nofun)]
  split
  case isTrue hq => rw [hq, h.free]
  case isFalse hq => exact h.kindAt_of_ne hq

end Staged

-- ======================================================== a file replaced

/-- The tree `left` is `tree` with some content at `place`, which is where
`path` leads: to an entry of the directory above. -/
structure Placed (tree : Node) (path : List Name) (content : Bytes)
    (place : List Name) (left : Node) : Prop where
  free : tree.kindAt place ≠ some .directory
  kindAt_eq : ∀ q, left.kindAt q = if q = place then some (.file content true)
    else tree.kindAt q
  located : left.locate path = .ok place
  above : ∃ up name above, path = up ++ [name] ∧ place = above ++ [name]
    ∧ left.locate up = .ok above

/-- A file that is there is read. -/
theorem readBytes_eq_ok (hlocated : tree.locate path = .ok place)
    (hkind : tree.kindAt place = some (.file content true)) :
    tree.readBytes path = .ok content := by
  obtain ⟨node, hfound, hnode⟩ := Option.map_eq_some_iff.mp hkind
  cases node with
  | dangling => cases hnode
  | directory entries => cases hnode
  | file bytes readable =>
      injection hnode with hbytes hreadable
      subst hbytes hreadable
      unfold readBytes stat
      rw [hlocated]
      simp only [bind, Except.bind, hfound, pure, Except.pure]

/-- Moving the temporary file places its content. -/
theorem Staged.move (h : Staged tree temporary content staged)
    (hmoved : staged.rename temporary path = .ok (place, left)) :
    Placed tree path content place left := by
  obtain ⟨above, name, node, hparent, hname, rfl, hfree, hnode, hleft⟩ :=
    rename_eq_ok hmoved
  obtain ⟨up, rfl, hnames, hup, habove⟩ := parentPlace_eq_ok hparent
  have hkind : node.kind = .file content true := by
    have hself := h.kindAt_self
    unfold Node.kindAt at hself
    rw [hnode] at hself
    injection hself
  -- taking the file away first gives the tree without it, whatever else is
  -- there
  have hkindAt : ∀ q, left.kindAt q = if q = above ++ [name]
      then some (.file content true) else tree.kindAt q := by
    intro q
    split at hleft
    case isTrue hsame =>
      rw [hleft, h.kindAt_eq, hsame]
    case isFalse hother =>
      rw [hleft, kindAt_put]
      case habove => rw [h.discard, ← h.kindAt_eq_directory_iff, habove]
      case hfree =>
          rw [h.discard, ← h.kindAt_of_ne (Ne.symm hother)]; exact hfree
      case hbare =>
        refine bare_of_isDirectory_eq_false ?_
        cases node <;> first | rfl | cases hkind
      rw [hkind, h.discard]
  have hfree' : tree.kindAt (above ++ [name]) ≠ some .directory := by
    rw [Ne, ← h.kindAt_eq_directory_iff]
    exact hfree
  -- the directory above has been kept, so its path still leads there
  have hkept : KeepsDirectories staged left := by
    intro q hq
    rw [h.kindAt_eq_directory_iff] at hq
    rw [hkindAt, if_neg, hq]
    rintro rfl
    exact hfree' hq
  have hup' := locate_of_keepsDirectories hkept hup habove
  refine ⟨hfree', hkindAt, ?_, up, name, above, rfl, rfl, hup'⟩
  refine locate_concat hnames hname (locate_eq_ok_iff.mp hup').2 ?_
  rw [hkindAt, if_pos rfl]
  exact nofun

namespace Placed

/-- Only the target changes, apart from directories on its way. -/
theorem changesOnly {up : List Name} (h : Placed tree path content place left) :
    ChangesOnly up (· = place) tree left := by
  intro q
  rw [h.kindAt_eq]
  split
  case isTrue hq => exact .inr (.inr ⟨hq, hq ▸ h.free, content, rfl⟩)
  case isFalse => exact .inl rfl

theorem kindAt_self (h : Placed tree path content place left) :
    left.kindAt place = some (.file content true) := by
  rw [h.kindAt_eq, if_pos rfl]

theorem keepsDirectories (h : Placed tree path content place left) :
    KeepsDirectories tree left := by
  have hchanges : ChangesOnly [] (· = place) tree left := h.changesOnly
  exact hchanges.keepsDirectories

theorem readBytes_eq (h : Placed tree path content place left) :
    left.readBytes path = .ok content :=
  readBytes_eq_ok h.located h.kindAt_self

end Placed

end Node

namespace Store

open Node

variable {i : Option Interruption} {s : Store} {tree created left : Node}
  {name content : Text} {old : Bytes} {temporary place : List Name}
  {fault : Fault}

-- ============================================================= one write

/-- A result of replacing what `path` leads to in `tree`: on failure the tree
as it was, on success the tree with the content placed. -/
def AllOrNothing (tree : Node) (path : List Name) (bytes : Bytes) :
    Except Fault (List Name) × Node → Prop
  | (.error _, left) => ∀ q, left.kindAt q = tree.kindAt q
  | (.ok place, left) => Placed tree path bytes place left

/-- From a staged file on, a write does all or nothing. -/
theorem allOrNothing_replace (s : Store) (name : Text) (bytes : Bytes)
    (i : Option Interruption) (h : Staged tree temporary old created) :
    AllOrNothing tree (s.artifactPath name) bytes
      (s.replace created name bytes temporary i) := by
  unfold replace
  split
  -- struck while filling: part of the content is there, and goes again
  case h_1 => exact (h.fill _).discard
  case h_2 =>
    simp only
    split
    case h_1 => exact (h.fill bytes).discard
    case h_2 =>
      split
      case h_1 place done hmoved => exact (h.fill bytes).move hmoved
      case h_2 => exact (h.fill bytes).discard

/-- A write makes directories that lead to the store, and then replaces the
artifact or does nothing. -/
theorem writeWith_eq (i : Option Interruption) (s : Store) (tree : Node)
    (name content : Text) :
    ∃ made, ChangesOnly s.directory (fun _ => False) tree made
      ∧ AllOrNothing made (s.artifactPath name) (Utf8.encode content)
          (s.writeWith i tree name content) := by
  unfold writeWith
  split
  case h_1 struck _ =>
    have hmade :
        ChangesOnly (s.directory.take struck.progress)
          (fun _ => False) tree _ :=
      changesOnly_makeDirectories tree _
    exact ⟨_, hmade.mono (List.take_prefix _ _) fun _ h => h, fun _ => rfl⟩
  case h_2 =>
    refine ⟨_, changesOnly_makeDirectories tree s.directory, ?_⟩
    split
    case h_1 fault left hleft =>
      rw [hleft]
      exact fun _ => rfl
    case h_2 made hmade =>
      rw [hmade]
      split
      case h_1 => exact fun _ => rfl
      case h_2 =>
        split
        case h_1 => exact fun _ => rfl
        case h_2 temporary created hcreated =>
          exact allOrNothing_replace s name _ i (staged_createFile hcreated)

/-- A failed write changes nothing but directories on its way. -/
theorem writeWith_eq_error
    (h : s.writeWith i tree name content = (.error fault, left)) :
    ChangesOnly s.directory (fun _ => False) tree left := by
  obtain ⟨made, hmade, hdone⟩ := writeWith_eq i s tree name content
  rw [h] at hdone
  exact hmade.trans fun q => .inl (hdone q)

/-- A write that succeeds places the content at the target. -/
theorem writeWith_eq_ok
    (h : s.writeWith i tree name content = (.ok place, left)) :
    ChangesOnly s.directory (· = place) tree left
      ∧ ∃ made, Placed made (s.artifactPath name) (Utf8.encode content)
        place left := by
  obtain ⟨made, hmade, hdone⟩ := writeWith_eq i s tree name content
  rw [h] at hdone
  exact ⟨(hmade.mono List.prefix_rfl fun _ h => h.elim).trans hdone.changesOnly,
    made, hdone⟩

/-- Whether or not a write succeeds, it changes no more than some files and the
way to the store. -/
theorem exists_changesOnly_writeWith (i : Option Interruption) (s : Store)
    (tree : Node) (name content : Text) :
    ∃ files, ChangesOnly s.directory files tree
      (s.writeWith i tree name content).2 := by
  cases hwrite : s.writeWith i tree name content with
  | mk result left =>
      cases result with
      | error fault => exact ⟨_, writeWith_eq_error hwrite⟩
      | ok place => exact ⟨_, (writeWith_eq_ok hwrite).1⟩

/-- Directories stay directories, whether a write succeeds or not. -/
theorem keepsDirectories_writeWith (i : Option Interruption) (s : Store)
    (tree : Node) (name content : Text) :
    KeepsDirectories tree (s.writeWith i tree name content).2 := by
  obtain ⟨_, hchanges⟩ := exists_changesOnly_writeWith i s tree name content
  exact hchanges.keepsDirectories

-- ========================================================= several writes

/-- An artifact with a plain name is an entry of the directory of the store. -/
theorem artifactPath_of_isName (s : Store) (h : Path.IsName name) :
    s.artifactPath name = s.directory ++ [name] := by
  exact PlainPath.fromTop_join_names (List.cons_ne_nil name [])
    (by simpa using h) s.directory

/-- Artifacts with these names were written: they are files in the directory
of the store, and besides them only directories that lead there may be
new. -/
def Wrote (s : Store) (names : List Text) (before after : Node) : Prop :=
  ∃ place, after.locate s.directory = .ok place
    ∧ after.kindAt place = some .directory
    ∧ ChangesOnly s.directory (fun q => ∃ name ∈ names, q = place ++ [name])
      before after ∧ ∀ name ∈ names,
        ∃ bytes, after.kindAt (place ++ [name]) = some (.file bytes true)

/-- An artifact with a plain name is left in the directory of the store. -/
theorem exists_above_of_writeWith_eq_ok (hname : Path.IsName name)
    (h : s.writeWith i tree name content = (.ok place, left)) :
    ∃ above, place = above ++ [name] ∧ left.locate s.directory = .ok above
      ∧ left.kindAt above = some .directory
      ∧ ChangesOnly s.directory (· = above ++ [name]) tree left
      ∧ left.kindAt (above ++ [name])
        = some (.file (Utf8.encode content) true) := by
  obtain ⟨hchanges, made, hplaced⟩ := writeWith_eq_ok h
  obtain ⟨up, last, above, hpath, rfl, hup⟩ := hplaced.above
  rw [artifactPath_of_isName s hname] at hpath
  obtain ⟨rfl, hlast⟩ := List.append_inj' hpath rfl
  injection hlast with hlast
  subst hlast
  have hself := hplaced.kindAt_self
  exact ⟨above, rfl, hup, kindAt_of_kindAt_append (by rw [hself]; exact nofun),
    hchanges, hself⟩

/-- A write that succeeds writes the artifact of its name. -/
theorem wrote_of_writeWith_eq_ok (hname : Path.IsName name)
    (h : s.writeWith i tree name content = (.ok place, left)) :
    s.Wrote [name] tree left := by
  obtain ⟨above, -, hup, habove, hchanges, hself⟩ :=
    exists_above_of_writeWith_eq_ok hname h
  refine ⟨above, hup, habove, ?_, ?_⟩
  · exact hchanges.mono List.prefix_rfl fun q hq =>
      ⟨name, List.mem_singleton_self name, hq⟩
  · intro other hother
    rw [List.mem_singleton.mp hother]
    exact ⟨_, hself⟩

/-- The directory of the store stays where it is from one write to the
next. -/
theorem Wrote.append {names more : List Text} {before between after : Node}
    (first : s.Wrote names before between)
    (second : s.Wrote more between after) :
    s.Wrote (names ++ more) before after := by
  obtain ⟨place, hplace, hdir, hchanges, hwritten⟩ := first
  obtain ⟨place', hplace', hdir', hchanges', hwritten'⟩ := second
  have hsame : place' = place := by
    have hkept :=
      locate_of_keepsDirectories hchanges'.keepsDirectories hplace hdir
    exact Except.ok.inj (hplace'.symm.trans hkept)
  subst hsame
  refine ⟨place', hplace', hdir', ?_, ?_⟩
  · refine (hchanges.mono List.prefix_rfl ?_).trans
      (hchanges'.mono List.prefix_rfl ?_)
    · rintro q ⟨name, hname, hq⟩
      exact ⟨name, List.mem_append_left more hname, hq⟩
    · rintro q ⟨name, hname, hq⟩
      exact ⟨name, List.mem_append_right names hname, hq⟩
  · intro name hname
    rcases List.mem_append.mp hname with hname | hname
    -- an earlier artifact may have been replaced once more, but is still a file
    · obtain ⟨bytes, hbytes⟩ := hwritten name hname
      rcases hchanges' (place' ++ [name]) with hsame | ⟨hnone, -, -⟩
        | ⟨-, -, hnew⟩
      · exact ⟨bytes, hsame.trans hbytes⟩
      · rw [hbytes] at hnone
        cases hnone
      · exact hnew
    · exact hwritten' name hname

/-- The same said of what stands at each path. -/
theorem Wrote.frame {names : List Text} {before after : Node}
    (h : s.Wrote names before after) :
    ∃ place, after.locate s.directory = .ok place
      ∧ (∀ path, (∀ name ∈ names, path ≠ place ++ [name]) →
        after.leafAt? path = before.leafAt? path)
      ∧ (∀ name ∈ names, ∃ bytes,
        after.leafAt? (place ++ [name]) = some (.file bytes true))
      ∧ (∀ path, before.directoryAt path = true → after.directoryAt path = true)
      ∧ ∀ path, after.directoryAt path = true → before.directoryAt path = true
        ∨ (before.find? path = none
          ∧ ∃ up, up <+: s.directory ∧ after.locate up = .ok path) := by
  obtain ⟨place, hplace, -, hchanges, hwritten⟩ := h
  refine ⟨place, hplace, ?_, ?_, fun _ => hchanges.directoryAt_of_directoryAt,
    fun _ => hchanges.directoryAt_cases⟩
  · intro path hpath
    refine hchanges.leafAt?_eq ?_
    rintro ⟨name, hname, heq⟩
    exact hpath name hname heq
  · intro name hname
    obtain ⟨bytes, hbytes⟩ := hwritten name hname
    rw [leafAt?_eq_kindAt, hbytes]
    exact ⟨bytes, rfl⟩

-- ============================================================== atomicity

/-- Whatever happens during a write, and whether or not it succeeds, no
temporary file is left. If it fails, all but directories is as before. If it
succeeds, the artifact has the new content and all else but directories is as
before. Directories stay, and new ones lead to the store. -/
theorem write_is_atomic (i : Option Interruption) (s : Store) (tree : Node)
    (name content : Text) :
    (∀ fault left, s.writeWith i tree name content = (.error fault, left) →
      ∀ path, left.leafAt? path = tree.leafAt? path)
    ∧ (∀ place left, s.writeWith i tree name content = (.ok place, left) →
      left.locate (s.artifactPath name) = .ok place
        ∧ left.readBytes (s.artifactPath name) = .ok (Utf8.encode content)
        ∧ ∀ path, left.leafAt? path = if path = place
          then some (.file (Utf8.encode content) true)
            else tree.leafAt? path)
    ∧ (∀ path, tree.directoryAt path = true →
      (s.writeWith i tree name content).2.directoryAt path = true)
    ∧ ∀ path, (s.writeWith i tree name content).2.directoryAt path = true →
      tree.directoryAt path = true
        ∨ (tree.find? path = none ∧ ∃ up, up <+: s.directory
          ∧ (s.writeWith i tree name content).2.locate up = .ok path) := by
  obtain ⟨files, hchanges⟩ := exists_changesOnly_writeWith i s tree name content
  refine ⟨?_, ?_, fun path => hchanges.directoryAt_of_directoryAt,
    fun path => hchanges.directoryAt_cases⟩
  · intro fault left h path
    exact (writeWith_eq_error h).leafAt?_eq id
  · intro place left h
    obtain ⟨hchanges, made, hplaced⟩ := writeWith_eq_ok h
    refine ⟨hplaced.located, hplaced.readBytes_eq, ?_⟩
    intro path
    split
    case isTrue hpath =>
      rw [leafAt?_eq_kindAt, hpath, hplaced.kindAt_self]
      rfl
    case isFalse hpath => exact hchanges.leafAt?_eq hpath

/-- A store with an artifact in it, and beside it what looks like a temporary
file. -/
def reportDisk : Node :=
  .directory [("out".toList, .directory [("a.json".toList, .file [1, 2] true),
    (".a.json.0.tmp".toList, .file [3] true)])]

/-- The artifact is replaced, or a failure halfway through the new content
leaves all as it was. -/
theorem write_is_atomic_report :
    (∃ left, (Store.mk ["out".toList]).writeWith none reportDisk "a.json" "é"
        = (.ok ["out".toList, "a.json".toList], left)
      ∧ left.readBytes ["out".toList, "a.json".toList] = .ok [0xC3, 0xA9]
      ∧ ∀ path, left.leafAt? path
          = if path = ["out".toList, "a.json".toList]
            then some (.file [0xC3, 0xA9] true)
            else reportDisk.leafAt? path)
    ∧ ∃ left, (Store.mk ["out".toList]).writeWith
      (some ⟨.fillTemporary, .denied, 1⟩) reportDisk "a.json" "é"
      = (.error .denied, left)
      ∧ ∀ path, left.leafAt? path = reportDisk.leafAt? path := by
  constructor
  · have hok :
        ((Store.mk ["out".toList]).writeWith none reportDisk "a.json" "é").1
          = .ok ["out".toList, "a.json".toList] := rfl
    obtain ⟨-, hread, hleaf⟩ :=
      (write_is_atomic none ⟨["out".toList]⟩ reportDisk "a.json" "é").2.1
      _ _ (Prod.ext hok rfl)
    exact ⟨_, Prod.ext hok rfl, hread, hleaf⟩
  · have herror :
        ((Store.mk ["out".toList]).writeWith (some ⟨.fillTemporary, .denied, 1⟩)
          reportDisk "a.json" "é").1 = .error .denied := rfl
    exact ⟨_, Prod.ext herror rfl,
      (write_is_atomic _ ⟨["out".toList]⟩ reportDisk "a.json" "é").1 _ _
      (Prod.ext herror rfl)⟩

end Store

end SourceAtlas
