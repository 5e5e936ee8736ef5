/-
Artifacts do not show in the snapshot. The store lies below the root, so of
the entries at the root a write can touch one only, the first on the way to the
store, and that only by making it a directory (`SameBut`). The snapshot
ignores this name, and where there was nothing before and is a directory now
there are no bytes to record.

- `sameBut_writeWith`: one write, whether it succeeds or fails.
- `sameBut_after`: any number of writes.
- `writes_keep_the_snapshot`: the snapshot stays the same.
-/
import SourceAtlas.Proofs.Artifact.Fresh
import SourceAtlas.Proofs.Artifact.Snapshot

namespace SourceAtlas

namespace Node

variable {tree before between after : Node} {root place more : List Name}
  {first name : Name} {files : List Name → Prop}

-- ============================================================== one entry

/-- The directory at `place` has the same entries as before, but for one that
may have been missing and is a directory now. -/
structure SameBut (place : List Name) (first : Name) (before after : Node) :
    Prop where
  keeps : KeepsDirectories before after
  entries : ∀ name, after.kindAt (place ++ [name])
    = before.kindAt (place ++ [name])
    ∨ (name = first ∧ before.kindAt (place ++ [name]) = none
      ∧ after.kindAt (place ++ [name]) = some .directory)

/-- A tree is the same as itself. -/
theorem SameBut.refl (place : List Name) (first : Name) (tree : Node) :
    SameBut place first tree tree :=
  ⟨fun _ hq => hq, fun _ => .inl rfl⟩

/-- Two changes in one place are one change there. -/
theorem SameBut.trans (one : SameBut place first before between)
    (two : SameBut place first between after) :
    SameBut place first before after := by
  refine ⟨fun q hq => two.keeps q (one.keeps q hq), fun name => ?_⟩
  rcases one.entries name with hsame | ⟨hname, hnone, hdir⟩
  · rcases two.entries name with hsame' | ⟨hname, hnone, hdir⟩
    · exact .inl (hsame'.trans hsame)
    · exact .inr ⟨hname, hsame ▸ hnone, hdir⟩
  · exact .inr ⟨hname, hnone, two.keeps _ hdir⟩

/-- Names that lead downwards from a path are followed as they are. -/
theorem eq_append_of_locate_append {deep : List Name}
    (hplace : tree.locate root = .ok place) (hup : upward ∉ more)
    (h : tree.locate (root ++ more) = .ok deep) : deep = place ++ more := by
  obtain ⟨-, hfrom⟩ := locate_eq_ok_iff.mp h
  rw [locateFrom_append, (locate_eq_ok_iff.mp hplace).2] at hfrom
  exact eq_append_of_locateFrom hup hfrom

/-- A path that leads to a directory passes through directories. -/
theorem exists_locate_of_prefix {up : List Name} (hup : up <+: root)
    (hplace : tree.locate root = .ok place)
    (hdir : tree.kindAt place = some .directory) :
    ∃ mid, tree.locate up = .ok mid ∧ tree.kindAt mid = some .directory := by
  obtain ⟨rest, rfl⟩ := hup
  obtain ⟨hnames, hfrom⟩ := locate_eq_ok_iff.mp hplace
  rw [locateFrom_append] at hfrom
  obtain ⟨mid, hmid, hrest⟩ := bind_eq_ok_iff.mp hfrom
  have hnames' : areNames up = true := by
    unfold areNames at hnames ⊢
    rw [List.all_append, Bool.and_eq_true] at hnames
    exact hnames.1
  exact ⟨mid, locate_eq_ok_iff.mpr ⟨hnames', hmid⟩,
    kindAt_of_locateFrom hrest hdir⟩

/-- Changes on the way to a directory below `place`, and files deeper than its
entries. -/
theorem ChangesOnly.sameBut
    (h : ChangesOnly (root ++ first :: more) files before after)
    (hplace : before.locate root = .ok place)
    (hdir : before.kindAt place = some .directory)
    (hup : upward ∉ first :: more)
    (hfiles : ∀ name, ¬ files (place ++ [name])) :
    SameBut place first before after := by
  refine ⟨h.keepsDirectories, fun name => ?_⟩
  rcases h (place ++ [name]) with hsame | ⟨hnone, hnew, up, hprefix, hlocated⟩
    | ⟨hfile, -, -⟩
  · exact .inl hsame
  · refine .inr ⟨?_, hnone, hnew⟩
    rcases List.prefix_or_prefix_of_prefix hprefix
      (List.prefix_append root (first :: more)) with hshort | ⟨deeper, rfl⟩
    · -- what leads to the root was there before
      obtain ⟨mid, hmid, hmiddir⟩ := exists_locate_of_prefix hshort hplace hdir
      have hkept := locate_of_keepsDirectories h.keepsDirectories hmid hmiddir
      obtain rfl : mid = place ++ [name] :=
        Except.ok.inj (hkept.symm.trans hlocated)
      rw [hmiddir] at hnone
      cases hnone
    · have hdeeper : deeper <+: first :: more :=
        (List.prefix_append_right_inj root).mp hprefix
      have hplace' := locate_of_keepsDirectories h.keepsDirectories hplace hdir
      have hdeep :=
        eq_append_of_locate_append hplace'
          (fun hmem => hup (hdeeper.subset hmem)) hlocated
      obtain rfl : [name] = deeper := List.append_cancel_left hdeep
      exact (List.cons_prefix_cons.mp hdeeper).1
  · exact absurd hfile (hfiles name)

-- ============================================================== snapshots

/-- What lies in a directory is one of its entries. -/
theorem kindAt_concat {entries : List (Name × Node)}
    (hfound : tree.find? place = some (directory entries)) (name : Name) :
    tree.kindAt (place ++ [name]) = (directory entries).kindAt [name] := by
  rw [kindAt_append, hfound, Option.bind_some]

/-- Whether an entry is a directory can be told from its kind. -/
theorem map_isDirectory_lookup (entries : List (Name × Node)) (name : Name) :
    (entries.lookup name).map isDirectory
      = ((directory entries).kindAt [name]).map fun kind =>
        decide (kind = .directory) := by
  rw [kindAt_directory_cons]
  cases entries.lookup name with
  | none => rfl
  | some node => rw [Option.bind_some, kindAt_nil]; cases node <;> rfl

/-- The bytes of a file can be told from its kind. -/
theorem bytesAt?_eq_kindAt (tree : Node) (path : List Name) :
    tree.bytesAt? path = ((tree.kindAt path).bind Kind.leaf?).bind bytes? := by
  unfold bytesAt? kindAt
  cases tree.find? path with
  | none => rfl
  | some node => cases node <;> rfl

/-- Trees that are the same but for the output directory have one snapshot. -/
theorem SameBut.build_eq {outputDir : Text} {generated : Int}
    (h : SameBut place first before after) (hbefore : before.wellFormed = true)
    (hafter : after.wellFormed = true) (hplace : before.locate root = .ok place)
    (hdir : before.kindAt place = some .directory)
    (htop : Snapshot.topLevel outputDir = [first]) :
    Snapshot.build (after.stat root) outputDir generated
      = Snapshot.build (before.stat root) outputDir generated := by
  obtain ⟨old, hold⟩ := exists_entries_of_kindAt hdir
  obtain ⟨new, hnew⟩ := exists_entries_of_kindAt (h.keeps place hdir)
  have hkinds := h.entries
  simp only [kindAt_concat hold, kindAt_concat hnew] at hkinds
  rw [stat_of_find? hplace hold,
    stat_of_find? (locate_of_keepsDirectories h.keeps hplace hdir) hnew]
  have hdistinct :=
    (wellFormed_directory.mp (wellFormed_of_find? hbefore hold)).1
  have hdistinct' :=
    (wellFormed_directory.mp (wellFormed_of_find? hafter hnew)).1
  -- The structure leaves the output directory out; the configuration files are
  -- told apart by their bytes, and a directory has none.
  refine Snapshot.build_congr ⟨old, hdistinct⟩ ⟨new, hdistinct'⟩
    ?hlisted ?hbytes
  case hlisted =>
    intro name hname
    rw [htop] at hname
    rcases hkinds name with hsame | ⟨rfl, -, -⟩
    · rw [Table.get?, Table.get?, map_isDirectory_lookup,
        map_isDirectory_lookup, hsame]
    · exact absurd (List.mem_cons_of_mem _ List.mem_cons_self) hname
  case hbytes =>
    intro name
    rw [bytesAt?_eq_kindAt, bytesAt?_eq_kindAt]
    rcases hkinds name with hsame | ⟨-, hnone, hnew⟩
    · rw [hsame]
    · rw [hnone, hnew]
      rfl

end Node

namespace Store

open Node

variable {i : Option Interruption} {s : Store} {tree : Node}
  {root place more : List Name} {first name content : Text}

-- ================================================================= writes

/-- A write, what interrupts it if anything does, and what is written. -/
structure Call where
  interruption : Option Interruption
  name : Text
  content : Text

/-- The tree after some writes, one after the other. -/
def after (s : Store) (calls : List Call) (tree : Node) : Node :=
  calls.foldl (fun tree call =>
    (s.writeWith call.interruption tree call.name call.content).2) tree

/-- A write changes nothing outside the directory of artifacts. -/
theorem sameBut_writeWith (hs : s.directory = root ++ first :: more)
    (hup : upward ∉ first :: more) (hplace : tree.locate root = .ok place)
    (hdir : tree.kindAt place = some .directory) (hname : Path.IsName name)
    (i : Option Interruption) (content : Text) :
    SameBut place first tree (s.writeWith i tree name content).2 := by
  cases hwrite : s.writeWith i tree name content with
  | mk result left =>
      cases result with
      | error fault =>
          have hchanges := writeWith_eq_error hwrite
          rw [hs] at hchanges
          exact hchanges.sameBut hplace hdir hup fun _ => id
      | ok there =>
          obtain ⟨above, -, habove, -, hchanges, -⟩ :=
            exists_above_of_writeWith_eq_ok hname hwrite
          have hkept := hchanges.keepsDirectories
          rw [hs] at habove hchanges
          obtain rfl := eq_append_of_locate_append
            (locate_of_keepsDirectories hkept hplace hdir) hup habove
          -- the artifact lies at least one directory deeper
          refine hchanges.sameBut hplace hdir hup fun entry hentry => ?_
          rw [List.append_assoc, List.append_cancel_left_eq] at hentry
          simp at hentry

theorem sameBut_after (hs : s.directory = root ++ first :: more)
    (hup : upward ∉ first :: more) (hplace : tree.locate root = .ok place)
    (hdir : tree.kindAt place = some .directory) {calls : List Call}
    (hcalls : ∀ call ∈ calls, Path.IsName call.name) :
    SameBut place first tree (s.after calls tree) := by
  induction calls generalizing tree with
  | nil => exact .refl place first tree
  | cons call rest ih =>
      obtain ⟨hcall, hrest⟩ := List.forall_mem_cons.mp hcalls
      have hone :=
        sameBut_writeWith hs hup hplace hdir hcall call.interruption
          call.content
      exact hone.trans (ih (locate_of_keepsDirectories hone.keeps hplace hdir)
        (hone.keeps place hdir) hrest)

theorem wellFormed_after (hwf : tree.wellFormed = true)
    (hdirectory : ∀ part ∈ s.directory, CanFollow part) {calls : List Call}
    (hcalls : ∀ call ∈ calls, Path.IsName call.name) :
    (s.after calls tree).wellFormed = true := by
  induction calls generalizing tree with
  | nil => exact hwf
  | cons call rest ih =>
      obtain ⟨hcall, hrest⟩ := List.forall_mem_cons.mp hcalls
      exact ih (wellFormed_writeWith hwf hdirectory hcall call.content
        call.interruption) hrest

/-- Writing artifacts, as many as there may be and whether or not this
succeeds, leaves the snapshot of the project as it was. The output directory is
given by names, be they those of files that are there already. -/
theorem writes_keep_the_snapshot {entries : List (Name × Node)}
    {parts : List Name} {calls : List Call} (hwf : tree.wellFormed = true)
    (hroot : tree.stat root = .ok (.directory entries)) (hne : parts ≠ [])
    (hparts : ∀ part ∈ parts, Path.IsName part)
    (hcalls : ∀ call ∈ calls, Path.IsName call.name) (generated : Int) :
    ∃ snapshot,
      Snapshot.build (tree.stat root) (Text.join ['/'] parts) generated
        = .ok snapshot
      ∧ Snapshot.build
          (((Store.ofProject root (Text.join ['/'] parts)).after calls
            tree).stat root)
          (Text.join ['/'] parts) generated
        = .ok snapshot := by
  obtain ⟨place, hplace, hfound⟩ := exists_place_of_stat hroot
  have hdir : tree.kindAt place = some .directory := by
    unfold kindAt
    rw [hfound]
    rfl
  have hs : (Store.ofProject root (Text.join ['/'] parts)).directory
      = root ++ parts :=
    PlainPath.fromTop_join_names hne hparts root
  obtain ⟨first, more, rfl⟩ := List.exists_cons_of_ne_nil hne
  have htop := Snapshot.topLevel_join_names hparts
  obtain ⟨snapshot, hsnapshot⟩ :
      ∃ snapshot, Snapshot.build (tree.stat root)
        (Text.join ['/'] (first :: more)) generated = .ok snapshot := by
    rw [hroot, Snapshot.build_directory,
      if_neg (Snapshot.not_nameless_join_names hparts)]
    exact ⟨_, rfl⟩
  refine ⟨snapshot, hsnapshot, ?_⟩
  -- The names do not lead upwards, so all that is written lies below the first
  -- of them.
  have hup : upward ∉ first :: more := fun hmem => (hparts _ hmem).2.2.1 rfl
  rw [← hsnapshot]
  exact (sameBut_after hs hup hplace hdir hcalls).build_eq hwf
    (wellFormed_after hwf (canFollow_ofProject hwf hplace _) hcalls)
    hplace hdir htop

/-- A project with a configuration file. -/
def configuredDisk : Node :=
  .directory [("p".toList, .directory [("setup.py".toList, .file [1] true)])]

/-- A write that succeeds, if the directory can be made, and one that does
not. -/
def twoCalls : List Call :=
  [⟨none, "a.json", "x"⟩, ⟨some ⟨.fillTemporary, .denied, 1⟩, "b.json", "y"⟩]

/-- An artifact in a new directory is there and does not show, and the
configuration file is no place for one. -/
theorem writes_keep_the_snapshot_configured :
    (∃ snapshot,
      Snapshot.build (configuredDisk.stat ["p".toList]) "out/art".toList 7
        = .ok snapshot
      ∧ Snapshot.build
          (((Store.ofProject ["p".toList] "out/art".toList).after twoCalls
            configuredDisk).stat ["p".toList])
          "out/art".toList 7
        = .ok snapshot)
    ∧ ((Store.ofProject ["p".toList] "out/art".toList).after twoCalls
        configuredDisk).readBytes
          ["p".toList, "out".toList, "art".toList, "a.json".toList]
      = .ok [0x78]
    ∧ ∃ snapshot,
      Snapshot.build (configuredDisk.stat ["p".toList]) "setup.py".toList 7
        = .ok snapshot
      ∧ Snapshot.build
          (((Store.ofProject ["p".toList] "setup.py".toList).after twoCalls
            configuredDisk).stat ["p".toList])
          "setup.py".toList 7
        = .ok snapshot := by
  have hjoin : Text.join ['/'] ["out".toList, "art".toList]
      = "out/art".toList := rfl
  have hone : Text.join ['/'] ["setup.py".toList] = "setup.py".toList := rfl
  rw [← hjoin, ← hone]
  refine ⟨?_, rfl, ?_⟩
  · exact writes_keep_the_snapshot (by decide) rfl (by decide) (by decide)
      (by decide) 7
  · exact writes_keep_the_snapshot (by decide) rfl (by decide) (by decide)
      (by decide) 7

end Store

end SourceAtlas
