/-
When a write succeeds, and what it keeps. There is always a free name for the
temporary file, as more names are tried than there are entries
(`freshPath_eq`), so a write into a directory that is there fails only if the
artifact is a directory itself (`exists_write_eq_ok`). A write into a
well-formed tree leaves a well-formed one (`wellFormed_writeWith`).

Consumed by the theory of repeated commands.
-/
import SourceAtlas.Proofs.Artifact.Store
import SourceAtlas.Proofs.Text.Decimal
import SourceAtlas.Proofs.Tree.Preserve

namespace SourceAtlas

open Utf8 (Bytes)

namespace Node

variable {tree : Node} {path place : List Name} {name : Name}

-- ===================================================== below a directory

/-- A path of names stays one with a further name. -/
theorem areNames_concat (hpath : areNames path = true) (hname : '\x00' ∉ name) :
    areNames (path ++ [name]) = true := by
  unfold areNames at hpath ⊢
  rw [List.all_append, hpath]
  simpa using hname

/-- A name below a directory has that directory as its parent. -/
theorem parentPlace_concat (hplace : tree.locate path = .ok place)
    (hdir : tree.kindAt place = some .directory) (hname : '\x00' ∉ name) :
    tree.parentPlace (path ++ [name]) = .ok (place, name) := by
  have hnames := areNames_concat (locate_eq_ok_iff.mp hplace).1 hname
  obtain ⟨entries, hfound⟩ := exists_entries_of_kindAt hdir
  unfold parentPlace
  simp [hnames, hplace, hfound, bind, Except.bind, pure, Except.pure]

/-- What lies at a place is found by a path to it. -/
theorem stat_of_find? {node : Node} (hplace : tree.locate path = .ok place)
    (hfound : tree.find? place = some node) : tree.stat path = .ok node := by
  unfold stat
  rw [hplace]
  simp only [bind, Except.bind, hfound]
  rfl

theorem exists_place_of_stat {node : Node} (h : tree.stat path = .ok node) :
    ∃ place, tree.locate path = .ok place ∧ tree.find? place = some node := by
  unfold stat at h
  obtain ⟨place, hplace, h⟩ := bind_eq_ok_iff.mp h
  refine ⟨place, hplace, ?_⟩
  split at h
  case h_1 found hfound =>
    injection h with h
    rw [hfound, h]
  case h_2 => cases h

/-- What a name leads to is the entry of that name. -/
theorem stat_concat (hplace : tree.locate path = .ok place)
    (hdir : tree.kindAt place = some .directory) (hname : '\x00' ∉ name)
    (hup : name ≠ upward) :
    tree.stat (path ++ [name]) = match tree.find? (place ++ [name]) with
      | some node => .ok node
      | none => .error .notFound := by
  obtain ⟨hnames, hplace⟩ := locate_eq_ok_iff.mp hplace
  have hnames := areNames_concat hnames hname
  cases hfound : tree.find? (place ++ [name]) with
  | some node =>
      have hthere : tree.kindAt (place ++ [name]) ≠ none := by
        simp [kindAt, hfound]
      exact stat_of_find? (locate_concat hnames hup hplace hthere) hfound
  | none =>
      have hmissing : tree.kindAt (place ++ [name]) = none := by
        simp [kindAt, hfound]
      have hlocate : tree.locate (path ++ [name]) = .error .notFound := by
        unfold locate
        rw [if_pos hnames, locateFrom_append, hplace]
        show tree.locateFrom place [name] = _
        rw [locateFrom_cons, hdir, hmissing]
        simp [hup]
      unfold stat
      rw [hlocate]
      rfl

/-- A file can be created under a free name. -/
theorem createFile_of_free {above : List Name}
    (hparent : tree.parentPlace path = .ok (above, name)) (hup : name ≠ upward)
    (hfree : tree.find? (above ++ [name]) = none) :
    tree.createFile path
      = .ok (above ++ [name], tree.put (above ++ [name]) (file [] true)) := by
  unfold createFile
  rw [hparent]
  simp [bind, Except.bind, hup, hfree, pure, Except.pure]

/-- A file can be moved to where no directory is. -/
theorem exists_rename_eq_ok {above : List Name}
    (hparent : tree.parentPlace path = .ok (above, name)) (hup : name ≠ upward)
    (hfree : tree.kindAt (above ++ [name]) ≠ some .directory)
    (hthere : tree.kindAt place ≠ none) :
    ∃ left, tree.rename place path = .ok (above ++ [name], left) := by
  cases hnode : tree.find? place with
  | none => simp [kindAt, hnode] at hthere
  | some node =>
      unfold rename
      rw [hparent]
      simp only [bind, Except.bind, if_neg hup, hnode]
      split
      case h_1 entries hentries =>
        simp [kindAt, hentries, kind] at hfree
      case h_2 =>
        split
        · exact ⟨_, rfl⟩
        · exact ⟨_, rfl⟩
      case h_3 hnone _ => cases hnone

/-- What is there cannot be made. -/
theorem makeDirectory_of_locate {up : List Name}
    (hplace : tree.locate (up ++ [name]) = .ok place) :
    tree.makeDirectory (up ++ [name]) = .error .alreadyExists := by
  obtain ⟨hnames, hfrom⟩ := locate_eq_ok_iff.mp hplace
  rw [locateFrom_append] at hfrom
  obtain ⟨above, habove, hlast⟩ := bind_eq_ok_iff.mp hfrom
  rw [locateFrom_cons] at hlast
  split at hlast
  case h_2 => cases hlast
  case h_3 => cases hlast
  case h_1 hdir =>
    have hup : areNames up = true ∧ '\x00' ∉ name := by
      unfold areNames at hnames ⊢
      simpa using hnames
    have hparent :=
      parentPlace_concat (locate_eq_ok_iff.mpr ⟨hup.1, habove⟩) hdir hup.2
    have htaken : name = upward
        ∨ (tree.find? (above ++ [name])).isSome = true := by
      split at hlast
      case isTrue hupward => exact .inl hupward
      case isFalse =>
        split at hlast
        case isTrue hthere =>
          unfold kindAt at hthere
          exact .inr (by simpa using hthere)
        case isFalse => cases hlast
    unfold makeDirectory
    rw [if_neg (by simp), hparent]
    simp [bind, Except.bind, htaken]

/-- A directory that is there need not be made. -/
theorem makeDirectories_of_directory (hplace : tree.locate path = .ok place)
    (hdir : tree.kindAt place = some .directory) :
    tree.makeDirectories path = (.ok (), tree) := by
  have hleads : tree.leadsToDirectory path = true := by
    obtain ⟨entries, hfound⟩ := exists_entries_of_kindAt hdir
    unfold leadsToDirectory
    rw [stat_of_find? hplace hfound]
    rfl
  rcases List.eq_nil_or_concat path with rfl | ⟨up, name, rfl⟩
  · rfl
  · rw [List.concat_eq_append] at hplace hleads ⊢
    have hreverse : (name :: up.reverse).reverse = up ++ [name] := by simp
    unfold makeDirectories
    rw [List.reverse_append, List.reverse_singleton, List.singleton_append,
      makeDirectoriesUp, hreverse, makeDirectory_of_locate hplace]
    simp [tolerate, hleads]

end Node

namespace Store

open Node

variable {s : Store} {tree left : Node} {name content : Text}
  {place : List Name}

-- ======================================================= temporary files

theorem isName_temporaryName (hname : Path.IsName name) (n : Nat) :
    Path.IsName (temporaryName name n) := by
  have hlong : 4 < (temporaryName name n).length := by
    simp [temporaryName]
    omega
  refine ⟨?_, ?_, ?_, ?_⟩
  · intro h
    simp [h] at hlong
  · intro h
    simp [h] at hlong
  · intro h
    simp [h] at hlong
  · have hdigit : '/' ∉ Text.ofNat n :=
      fun h => absurd (Text.isDigit_of_mem_ofNat h) (by decide)
    simp [temporaryName, hname.slash_not_mem, hdigit]

/-- Temporary names of different numbers are different. -/
theorem temporaryName_inj {n m : Nat}
    (h : temporaryName name n = temporaryName name m) : n = m := by
  unfold temporaryName at h
  simp only [List.cons_append, List.append_assoc, List.cons.injEq,
    List.append_cancel_left_eq, true_and] at h
  have hends : Text.EndsNumeral ".tmp".toList :=
    Text.endsNumeral_cons (by decide)
  exact (Text.ofNat_append_inj hends hends h).1

/-- A temporary name has no null character that the name lacks. -/
theorem null_notMem_temporaryName (hname : '\x00' ∉ name) (n : Nat) :
    '\x00' ∉ temporaryName name n := by
  have hdigit : '\x00' ∉ Text.ofNat n :=
    fun h => absurd (Text.isDigit_of_mem_ofNat h) (by decide)
  simp [temporaryName, hname, hdigit]

/-- Temporary files lie in the directory of the artifacts. -/
theorem temporaryPath_eq (s : Store) (hname : Path.IsName name) (n : Nat) :
    s.temporaryPath name n = s.directory ++ [temporaryName name n] := by
  have htemporary := isName_temporaryName hname n
  unfold temporaryPath Node.names
  rw [Text.split_of_not_mem htemporary.slash_not_mem]
  simp [htemporary.ne_nil, htemporary.2.1]

/-- The temporary file gets one of the names for it, and a free one if there
is one among those tried. -/
theorem exists_freshPath_eq (s : Store) (tree : Node)
    (hname : Path.IsName name) :
    ∃ n, s.freshPath tree name = s.directory ++ [temporaryName name n]
      ∧ ((∃ m < crowd tree (s.temporaryPath name 0) + 1,
          isFree tree (s.directory ++ [temporaryName name m]) = true) →
        isFree tree (s.directory ++ [temporaryName name n]) = true) := by
  have hpath : s.temporaryPath name = fun n =>
      s.directory ++ [temporaryName name n] := by
    funext n
    exact temporaryPath_eq s hname n
  unfold freshPath
  simp only [hpath]
  cases hfind :
    ((List.range (crowd tree (s.directory ++ [temporaryName name 0]) + 1)).map
      fun n => s.directory ++ [temporaryName name n]).find? (isFree tree) with
  | none =>
      refine ⟨0, rfl, ?_⟩
      rintro ⟨m, hm, hfree⟩
      have htaken :=
        List.find?_eq_none.mp hfind _
          (List.mem_map_of_mem (List.mem_range.2 hm))
      exact absurd hfree htaken
  | some path =>
      obtain ⟨n, -, rfl⟩ := List.mem_map.1 (List.mem_of_find?_eq_some hfind)
      exact ⟨n, rfl, fun _ => List.find?_some hfind⟩

/-- Of one name more than there are entries, one is free. -/
theorem exists_free {entries : List (Name × Node)}
    (hfound : tree.find? place = some (.directory entries)) (name : Text) :
    ∃ n < entries.length + 1,
      tree.find? (place ++ [temporaryName name n]) = none := by
  apply Classical.byContradiction
  intro htaken
  have hkeys : (List.range (entries.length + 1)).map (temporaryName name)
      ⊆ entries.map (·.1) := by
    intro x hx
    obtain ⟨n, hn, rfl⟩ := List.mem_map.1 hx
    apply Classical.byContradiction
    intro hmissing
    refine htaken ⟨n, List.mem_range.1 hn, ?_⟩
    have hnone : entries.lookup (temporaryName name n) = none :=
      lookup_eq_none_iff.mpr hmissing
    rw [find?_append, hfound, Option.bind_some, find?_directory_cons, hnone]
    rfl
  have hnodup :
      ((List.range (entries.length + 1)).map (temporaryName name)).Nodup := by
    apply List.Pairwise.map _ _ List.nodup_range
    intro n m hne heq
    exact hne (temporaryName_inj heq)
  have hle := hnodup.length_le_of_subset hkeys
  rw [List.length_map, List.length_map, List.length_range] at hle
  omega

/-- Whether an entry of the store is free. -/
theorem isFree_iff (hplace : tree.locate s.directory = .ok place)
    (hdir : tree.kindAt place = some .directory) (hname : Path.IsName name)
    (hnull : '\x00' ∉ name) :
    isFree tree (s.directory ++ [name]) = true
      ↔ tree.find? (place ++ [name]) = none := by
  unfold isFree
  rw [stat_concat hplace hdir hnull hname.2.2.1]
  cases tree.find? (place ++ [name]) with
  | none => simp
  | some node => simp

/-- The temporary file gets a name that is free. -/
theorem freshPath_eq (hplace : tree.locate s.directory = .ok place)
    (hdir : tree.kindAt place = some .directory) (hname : Path.IsName name)
    (hnull : '\x00' ∉ name) :
    ∃ n, s.freshPath tree name = s.directory ++ [temporaryName name n]
      ∧ tree.find? (place ++ [temporaryName name n]) = none := by
  obtain ⟨entries, hfound⟩ := exists_entries_of_kindAt hdir
  have hcrowd : crowd tree (s.temporaryPath name 0) = entries.length := by
    unfold crowd
    rw [temporaryPath_eq s hname, List.dropLast_concat,
      stat_of_find? hplace hfound]
    rfl
  have hfree : ∀ n, isFree tree (s.directory ++ [temporaryName name n]) = true
      ↔ tree.find? (place ++ [temporaryName name n]) = none := by
    intro n
    exact isFree_iff hplace hdir (isName_temporaryName hname n)
      (null_notMem_temporaryName hnull n)
  obtain ⟨n, hfresh, htried⟩ := exists_freshPath_eq s tree hname
  obtain ⟨m, hm, hnone⟩ := exists_free hfound name
  rw [hcrowd] at htried
  exact ⟨n, hfresh, (hfree n).mp (htried ⟨m, hm, (hfree m).mpr hnone⟩)⟩

-- =============================================================== success

/-- A write into a directory that is there succeeds, unless the artifact is a
directory, and changes nothing else. -/
theorem exists_write_eq_ok (hplace : tree.locate s.directory = .ok place)
    (hdir : tree.kindAt place = some .directory) (hname : Path.IsName name)
    (hnull : '\x00' ∉ name)
    (hfree : tree.kindAt (place ++ [name]) ≠ some .directory) (content : Text) :
    ∃ left, s.write tree name content = (.ok (place ++ [name]), left)
      ∧ Placed tree (s.directory ++ [name]) (Utf8.encode content)
        (place ++ [name]) left := by
  obtain ⟨n, hfresh, hnone⟩ := freshPath_eq hplace hdir hname hnull
  have htemporary := isName_temporaryName hname n
  -- Nothing stands at the temporary path, so the file is made there, filled and
  -- then moved; each step keeps the directories the next one needs.
  have hcreate : tree.createFile (s.freshPath tree name)
      = .ok (place ++ [temporaryName name n],
        tree.put (place ++ [temporaryName name n]) (.file [] true)) := by
    rw [hfresh]
    exact createFile_of_free
      (parentPlace_concat hplace hdir (null_notMem_temporaryName hnull n))
      htemporary.2.2.1 hnone
  have hfilled := (staged_createFile hcreate).fill (Utf8.encode content)
  have hkept : KeepsDirectories tree _ :=
    fun q hq => hfilled.kindAt_eq_directory_iff.mpr hq
  have hparent :=
    parentPlace_concat (locate_of_keepsDirectories hkept hplace hdir)
      (hkept place hdir) hnull
  have hgoal : _ ≠ some Kind.directory :=
    fun h => hfree (hfilled.kindAt_eq_directory_iff.mp h)
  obtain ⟨left, hmoved⟩ := exists_rename_eq_ok hparent hname.2.2.1 hgoal
    (by rw [hfilled.kindAt_self]; exact nofun)
  refine ⟨left, ?_, hfilled.move hmoved⟩
  unfold write writeWith replace
  simp only [strikes, Option.filter_none,
    makeDirectories_of_directory hplace hdir, hcreate,
    artifactPath_of_isName s hname, hmoved]

/-- A write fails where the artifact is a directory, and no file changes. -/
theorem exists_write_eq_error (hplace : tree.locate s.directory = .ok place)
    (hdir : tree.kindAt place = some .directory) (hname : Path.IsName name)
    (hbusy : tree.kindAt (place ++ [name]) = some .directory) (content : Text) :
    ∃ fault left, s.write tree name content = (.error fault, left)
      ∧ ∀ path, left.leafAt? path = tree.leafAt? path := by
  have hkept : KeepsDirectories tree (s.write tree name content).2 :=
    keepsDirectories_writeWith none s tree name content
  cases hwrite : s.write tree name content with
  | mk result left =>
      rw [hwrite] at hkept
      cases result with
      | error fault =>
          exact ⟨fault, left, rfl,
            fun path => (writeWith_eq_error hwrite).leafAt?_eq id⟩
      | ok there =>
          obtain ⟨above, -, habove, -, -, hfile⟩ :=
            exists_above_of_writeWith_eq_ok hname hwrite
          obtain rfl : above = place :=
            Except.ok.inj (habove.symm.trans
              (locate_of_keepsDirectories hkept hplace hdir))
          rw [hkept _ hbusy] at hfile
          cases hfile

-- ============================================================ well-formed

/-- Replacing an artifact keeps the tree well-formed. -/
theorem wellFormed_replace (hwf : tree.wellFormed = true)
    {temporary : List Name} (htemporary : ∀ part ∈ temporary, Path.IsName part)
    (hname : Path.IsName name) (bytes : Bytes) (i : Option Interruption) :
    (s.replace tree name bytes temporary i).2.wellFormed = true := by
  have hput :
      ∀ content, (tree.put temporary (.file content true)).wellFormed = true :=
    fun content => wellFormed_put hwf rfl htemporary
  unfold replace
  split
  case h_1 => exact wellFormed_erase (hput _) temporary
  case h_2 =>
    simp only
    split
    case h_1 => exact wellFormed_erase (hput bytes) temporary
    case h_2 =>
      split
      case h_1 place done hmoved =>
        rw [artifactPath_of_isName s hname] at hmoved
        exact wellFormed_rename (hput bytes) hname hmoved
      case h_2 => exact wellFormed_erase (hput bytes) temporary

/-- What a path is read as can be followed. -/
theorem canFollow_fromTop {here : List Name}
    (hhere : ∀ part ∈ here, CanFollow part) (path : Text) :
    ∀ part ∈ (PlainPath.ofText path).fromTop here, CanFollow part := by
  have hparts : ∀ part ∈ (PlainPath.ofText path).parts, CanFollow part := by
    intro part hpart
    rw [PlainPath.parts_ofText] at hpart
    obtain ⟨hmem, hloud⟩ := List.mem_filter.mp hpart
    have hloud := of_decide_eq_true hloud
    by_cases hup : part = upward
    · exact .inl hup
    · exact .inr ⟨fun h => hloud (.inl h), fun h => hloud (.inr h), hup,
        Path.not_mem_of_mem_components hmem⟩
  intro part hpart
  unfold PlainPath.fromTop at hpart
  split at hpart
  case isTrue => exact hparts part hpart
  case isFalse =>
    rcases List.mem_append.1 hpart with hpart | hpart
    · exact hhere part hpart
    · exact hparts part hpart

/-- The store of a project that is there has a directory that can be
followed. -/
theorem canFollow_ofProject {root : List Name} (hwf : tree.wellFormed = true)
    (hroot : tree.locate root = .ok place) (outputDir : Text) :
    ∀ part ∈ (ofProject root outputDir).directory, CanFollow part :=
  canFollow_fromTop (canFollow_of_locateFrom hwf (locate_eq_ok_iff.mp hroot).2)
    outputDir

/-- Whatever happens during a write, the tree stays well-formed. -/
theorem wellFormed_writeWith (hwf : tree.wellFormed = true)
    (hdirectory : ∀ part ∈ s.directory, CanFollow part)
    (hname : Path.IsName name) (content : Text) (i : Option Interruption) :
    (s.writeWith i tree name content).2.wellFormed = true := by
  unfold writeWith
  -- The interruption may strike while directories are made, before the file is
  -- there, or while it is filled and moved.
  split
  case h_1 struck _ =>
    apply wellFormed_makeDirectories hwf
    intro part hpart
    exact hdirectory part (List.mem_of_mem_take hpart)
  case h_2 =>
    have hmade := wellFormed_makeDirectories hwf hdirectory
    split
    case h_1 fault left hleft =>
      rw [hleft] at hmade
      exact hmade
    case h_2 made hok =>
      rw [hok] at hmade
      split
      case h_1 => exact hmade
      case h_2 =>
        split
        case h_1 => exact hmade
        case h_2 temporary created hcreated =>
          obtain ⟨n, hfresh, -⟩ := exists_freshPath_eq s made hname
          have hstaged := staged_createFile hcreated
          rw [hfresh] at hcreated
          have hwf' :=
            wellFormed_createFile hmade (isName_temporaryName hname n) hcreated
          refine wellFormed_replace hwf' ?_ hname _ i
          exact isName_of_kindAt hwf' (by rw [hstaged.kindAt_self]; exact nofun)

end Store

end SourceAtlas
