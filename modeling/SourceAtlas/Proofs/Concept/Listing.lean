/-
What concepts are listed with. Three times over a list of files is capped:
when one file is classified, when its concepts are merged into those of the
files before it, and when a run merges the result into its index. All the
same, a concept is listed with the first of its files, as many as the limit
allows (`foldl_addFile`): the first cap sees one file at a time, and what the
second one leaves is never cut again (`foldl_addFile_of_capped`). All concepts
have their place in the table before the first file is classified, so the
order of the table stays (`entries_extract`), and the concepts without a file
are left out at the end.
-/
import SourceAtlas.Proofs.Concept.Marks
import SourceAtlas.Proofs.MapReduce
import SourceAtlas.Proofs.Run.Unpruned

namespace SourceAtlas

-- ========================================================= capped lists

namespace ConceptMap

variable {limit : Int} {files more : List Text} {file : Text}
  {m other : ConceptMap}

/-- Offering one more file to the first distinct ones. -/
theorem addFile_take (limit : Int) (files : List Text) (file : Text) :
    addFile limit (files.eraseDups.take limit.toNat) file
      = (files ++ [file]).eraseDups.take limit.toNat := by
  rw [List.eraseDups_append]
  by_cases hmem : file ∈ files
  · have hnothing : [file].removeAll files = [] := by
      simp [List.removeAll, hmem]
    rw [hnothing, List.eraseDups_nil, List.append_nil]
    refine addFile_of_settled ?_
    -- A file seen before is among those kept, or the cap has been reached.
    by_cases hkept : file ∈ files.eraseDups.take limit.toNat
    · exact .inl hkept
    · right
      have hlong : limit.toNat ≤ files.eraseDups.length := by
        refine Nat.le_of_not_lt fun hshort => hkept ?_
        rw [List.take_of_length_le (Nat.le_of_lt hshort)]
        exact List.mem_eraseDups.mpr hmem
      rw [List.length_take]
      omega
  · have hfile : ([file].removeAll files).eraseDups = [file] := by
      simp [List.removeAll, hmem, List.eraseDups_cons]
    rw [hfile]
    by_cases hlong : limit.toNat ≤ files.eraseDups.length
    · rw [List.take_append_of_le_length hlong]
      refine addFile_of_settled (.inr ?_)
      rw [List.length_take]
      omega
    · have hnew : ¬ Settled limit files.eraseDups file := by
        rintro (h | h)
        · exact hmem (List.mem_eraseDups.mp h)
        · omega
      have hlength : (files.eraseDups ++ [file]).length ≤ limit.toNat := by
        rw [List.length_append, List.length_singleton]
        omega
      rw [List.take_of_length_le hlength, List.take_of_length_le (by omega)]
      exact addFile_of_not_settled hnew

/-- Offering files one by one keeps the first distinct ones. -/
theorem foldl_addFile (limit : Int) (files more : List Text) :
    more.foldl (addFile limit) (files.eraseDups.take limit.toNat)
      = (files ++ more).eraseDups.take limit.toNat := by
  induction more generalizing files with
  | nil => rw [List.foldl_nil, List.append_nil]
  | cons next rest ih =>
      rw [List.foldl_cons, addFile_take, ih, List.append_assoc]
      rfl

/-- What is left of a list by the cap is not cut again. -/
theorem foldl_addFile_of_capped (h : Capped limit (files ++ more)) :
    more.foldl (addFile limit) files = files ++ more := by
  induction more generalizing files with
  | nil => rw [List.foldl_nil, List.append_nil]
  | cons next rest ih =>
      have hnew : ¬ Settled limit files next := by
        obtain ⟨hnodup, hlength⟩ := h
        rw [List.length_append, List.length_cons] at hlength
        rintro (hmem | hfull)
        · exact (List.nodup_append.mp hnodup).2.2 next hmem next
            List.mem_cons_self rfl
        · omega
      rw [List.append_cons] at h ⊢
      rw [List.foldl_cons, addFile_of_not_settled hnew]
      exact ih h

-- ============================================================== merging

/-- Merging is adding the files of the other map one by one. -/
theorem merge_eq_foldl (m other : ConceptMap) : m.merge other
    = ⟨m.limit, m.files.collect (step m.limit)
        (other.files.entries.flatMap fun entry =>
          entry.2.map fun file => (entry.1, file))⟩ := by
  rw [← foldl_add, List.foldl_flatMap]
  simp only [List.foldl_map]
  rfl

/-- Adding the files of new concepts adds an entry for each that has a file, and
all its files are kept if the cap has been applied to them. -/
theorem foldl_fresh {t : Table (List Text)} {entries : List (Text × List Text)}
    (hnodup : (entries.map (·.1)).Nodup)
    (hfresh : ∀ entry ∈ entries, entry.1 ∉ t.keys)
    (hcapped : ∀ entry ∈ entries, Capped limit entry.2) :
    (entries.foldl (fun (m : ConceptMap) (concept, files) =>
        files.foldl (fun m file => m.add concept file) m)
          ⟨limit, t⟩).files.entries
      = t.entries ++ entries.filter fun entry => !entry.2.isEmpty := by
  induction entries generalizing t with
  | nil => rw [List.filter_nil, List.append_nil, List.foldl_nil]
  | cons entry rest ih =>
      obtain ⟨concept, files⟩ := entry
      obtain ⟨hnew, hrest⟩ := List.nodup_cons.mp hnodup
      obtain ⟨hplace, hplaces⟩ := List.forall_mem_cons.mp hfresh
      obtain ⟨hfiles, hothers⟩ := List.forall_mem_cons.mp hcapped
      -- Without a file the concept gets no entry; with one, the entry comes
      -- last, and the concepts to come are not in the table either.
      by_cases hempty : files = []
      · subst hempty
        exact ih hrest hplaces hothers
      · have hadded : files.foldl (fun m file => add m concept file) ⟨limit, t⟩
            = ⟨limit, t.put concept files⟩ := by
          have hkept : join limit none files = files :=
            foldl_addFile_of_capped hfiles
          rw [foldl_add_files concept t hempty,
            Table.get?_eq_none_iff.mpr hplace, hkept]
        have hkeys : ∀ other ∈ rest, other.1 ∉ (t.put concept files).keys := by
          intro other hother hmem
          rw [Table.keys_put, if_neg hplace, List.mem_append,
            List.mem_singleton] at hmem
          rcases hmem with hmem | heq
          · exact hplaces other hother hmem
          · exact hnew (List.mem_map.mpr ⟨other, hother, heq⟩)
        have hlater := ih hrest hkeys hothers
        rw [Table.entries_put_of_notMem hplace, List.append_assoc] at hlater
        rw [List.filter_cons_of_pos (by simpa using hempty), List.foldl_cons]
        dsimp only
        rw [hadded]
        exact hlater

/-- Merging adds an entry for each new concept with a file. -/
theorem merge_fresh {m other : ConceptMap}
    (hfresh : ∀ entry ∈ other.files.entries, entry.1 ∉ m.files.keys)
    (hcapped : ∀ entry ∈ other.files.entries, Capped m.limit entry.2) :
    (m.merge other).files.entries
      = m.files.entries ++ other.files.entries.filter fun entry =>
        !entry.2.isEmpty :=
  foldl_fresh other.files.distinct hfresh hcapped

end ConceptMap

-- ============================================================ extraction

namespace Concept

variable {limit : Int} {path : Text} {paths : List Text}
  {keywords : List String}

/-- The concepts that a file shows, each with the file. -/
def shownBy (path : Text) : List (Text × Text) :=
  (table.filter fun row => shows row.2 path).map fun row => (row.1.toList, path)

/-- What a file is added to: the concepts that it shows, unless the limit
leaves no room for any file. -/
def offers (limit : Int) (path : Text) : List (Text × Text) :=
  if 1 ≤ limit then shownBy path else []

theorem nodup_shownBy (path : Text) : ((shownBy path).map (·.1)).Nodup := by
  rw [shownBy, List.map_map]
  exact (List.filter_sublist.map _).nodup nodup_table

/-- Classifying a file is adding it to what it shows. -/
theorem classify_eq (limit : Int) (path : Text) : classify limit path
    = ⟨limit, Table.empty.collect (ConceptMap.step limit) (shownBy path)⟩ := by
  rw [← ConceptMap.foldl_add, shownBy, List.foldl_map, List.foldl_filter]
  rfl

/-- A classified file stands in each concept that it shows, if the limit allows
one. -/
theorem entries_classify (limit : Int) (path : Text) :
    (classify limit path).files.entries
    = (shownBy path).map fun item =>
      (item.1, ConceptMap.step limit none item.2) := by
  rw [classify_eq]
  exact Table.entries_collect_of_fresh (nodup_shownBy path) fun _ _ =>
    List.not_mem_nil

/-- The files of what one file shows: the file itself, once for each concept,
or nothing. -/
theorem flatMap_classify (limit : Int) (path : Text) :
    ((classify limit path).files.entries.flatMap fun entry =>
      entry.2.map fun file => (entry.1, file)) = offers limit path := by
  rw [entries_classify, List.flatMap_map, offers]
  split
  case isTrue hroom =>
    have hone : ∀ file, ConceptMap.step limit none file = [file] := fun file =>
      ConceptMap.addFile_of_not_settled fun hsettled => by
        rcases hsettled with hmem | hfull
        · cases hmem
        · exact absurd hfull (Int.not_le.mpr hroom)
    simp only [hone, List.map_cons, List.map_nil]
    exact List.flatMap_singleton' _
  case isFalse hfull =>
    have hnone : ∀ file, ConceptMap.step limit none file = [] := fun file =>
      ConceptMap.addFile_of_settled (.inr (Int.not_lt.mp hfull))
    simp only [hnone, List.map_nil]
    exact List.flatMap_eq_nil_iff.mpr fun _ _ => rfl

/-- Merging what one file shows is adding the file wherever it is offered. -/
theorem merge_classify (t : Table (List Text)) :
    ConceptMap.merge ⟨limit, t⟩ (classify limit path)
      = ⟨limit, t.collect (ConceptMap.step limit) (offers limit path)⟩ := by
  rw [ConceptMap.merge_eq_foldl, flatMap_classify]

/-- Extraction is adding every file wherever it is offered. -/
theorem extract_eq (limit : Int) (paths : List Text) : extract limit paths
    = ⟨limit, blank.collect (ConceptMap.step limit)
      (paths.flatMap (offers limit))⟩ := by
  have hfrom :
      ∀ t : Table (List Text),
        paths.foldl (fun m path => ConceptMap.merge m (classify limit path))
          ⟨limit, t⟩ = ⟨limit,
            t.collect (ConceptMap.step limit)
            (paths.flatMap (offers limit))⟩ := by
    induction paths with
    | nil => exact fun t => rfl
    | cons path rest ih =>
        intro t
        rw [List.foldl_cons, merge_classify, ih, List.flatMap_cons,
          Table.collect_append]
  exact hfrom _

/-- The first files that show a concept, as many as the limit allows. -/
def listed (limit : Int) (keywords : List String) (paths : List Text) :
    List Text :=
  (paths.filter fun path => Marked keywords path).eraseDups.take limit.toNat

/-- A file shows a concept if it is marked by one of its keywords. -/
theorem filter_shownBy {row : String × List String} (hrow : row ∈ table)
    (path : Text) :
    (shownBy path).filter (·.1 == row.1.toList)
      = if Marked row.2 path then [(row.1.toList, path)] else [] := by
  have hname : table.filter (fun other => other.1.toList == row.1.toList)
      = [row] := by
    revert row
    decide +kernel
  rw [shownBy, List.filter_map, List.filter_filter]
  have hcomm : (fun other : String × List String =>
      ((·.1 == row.1.toList) ∘ fun other : String × List String =>
        (other.1.toList, path)) other && shows other.2 path)
      = fun other => shows other.2 path && other.1.toList == row.1.toList :=
    funext fun other => Bool.and_comm _ _
  rw [hcomm, ← List.filter_filter, hname]
  by_cases hmarked : Marked row.2 path
  · have hshows :=
      (shows_iff_marked (areKeywords_table row hrow) path).mpr hmarked
    rw [List.filter_cons, if_pos hshows, if_pos hmarked]
    rfl
  · have hshows :=
      mt (shows_iff_marked (areKeywords_table row hrow) path).mp hmarked
    rw [List.filter_cons, if_neg hshows, if_neg hmarked]
    rfl

/-- The files that are added for one concept. -/
theorem foldl_offers {row : String × List String} (hrow : row ∈ table)
    (limit : Int) (paths : List Text) :
    ((paths.flatMap (offers limit)).filter (·.1 == row.1.toList)).foldl
        (fun files item => ConceptMap.step limit (some files) item.2) []
      = listed limit row.2 paths := by
  by_cases hroom : 1 ≤ limit
  · have hstep :
        ∀ files path, ((offers limit path).filter (·.1 == row.1.toList)).foldl
          (fun files item => ConceptMap.step limit (some files) item.2) files
          = if Marked row.2 path then ConceptMap.addFile limit files path
            else files := by
      intro files path
      rw [offers, if_pos hroom, filter_shownBy hrow]
      split
      · rfl
      · rfl
    have hkept :=
      ConceptMap.foldl_addFile limit []
        (paths.filter fun path => Marked row.2 path)
    rw [List.nil_append, List.eraseDups_nil, List.take_nil, List.foldl_filter]
      at hkept
    rw [listed, ← hkept, List.filter_flatMap, List.foldl_flatMap]
    simp only [hstep, decide_eq_true_eq]
  · have hnone : paths.flatMap (offers limit) = [] :=
      List.flatMap_eq_nil_iff.mpr fun path _ => if_neg hroom
    have hzero : limit.toNat = 0 := by omega
    rw [hnone, listed, hzero]
    rfl

/-- Each concept is found with the first files that show it. -/
theorem entries_extract (limit : Int) (paths : List Text) :
    (extract limit paths).files.entries
    = table.map fun row => (row.1.toList, listed limit row.2 paths) := by
  have hkeys : blank.keys = table.map fun row => row.1.toList := by
    rw [Table.keys, blank, List.map_map]
    rfl
  have hplaces :
      ∀ item ∈ paths.flatMap (offers limit), item.1 ∈ blank.keys := by
    intro item hitem
    obtain ⟨path, -, hitem⟩ := List.mem_flatMap.mp hitem
    rw [offers] at hitem
    split at hitem
    case isTrue =>
      obtain ⟨row, hrow, rfl⟩ := List.mem_map.mp hitem
      rw [hkeys]
      exact List.mem_map_of_mem (List.mem_of_mem_filter hrow)
    case isFalse => cases hitem
  rw [extract_eq, Table.entries_collect_of_mem hplaces, blank, List.map_map]
  exact List.map_congr_left fun row hrow =>
    congrArg (Prod.mk row.1.toList) (foldl_offers hrow limit paths)

/-- The concepts with a file, in the order of the table, each with the first of
its files. -/
def listing (limit : Int) (paths : List Text) : List (Text × List Text) :=
  (table.map fun row => (row.1.toList, listed limit row.2 paths)).filter
    fun entry =>
    !entry.2.isEmpty

theorem shown_extract (limit : Int) (paths : List Text) :
    (extract limit paths).shown.entries = listing limit paths := by
  rw [listing, ← entries_extract]
  rfl

/-- What is listed keeps to the limit. -/
theorem capped_listed (limit : Int) (keywords : List String)
    (paths : List Text) :
    ConceptMap.Capped limit (listed limit keywords paths) := by
  have hkept :=
    ConceptMap.foldl_addFile limit []
      (paths.filter fun path => Marked keywords path)
  rw [List.nil_append, List.eraseDups_nil, List.take_nil] at hkept
  rw [listed, ← hkept]
  exact ConceptMap.capped_foldl ConceptMap.capped_nil

/-- Merged into an empty map, the concepts with a file are left. -/
theorem merge_extract (limit : Int) (paths : List Text) :
    ((ConceptMap.empty limit).merge (extract limit paths)).files.entries
      = listing limit paths := by
  have hcapped : ∀ entry ∈ (extract limit paths).files.entries,
      ConceptMap.Capped limit entry.2 := by
    intro entry hentry
    rw [entries_extract] at hentry
    obtain ⟨row, -, rfl⟩ := List.mem_map.mp hentry
    exact capped_listed limit row.2 paths
  have hmerged := ConceptMap.merge_fresh (m := .empty limit)
    (fun _ _ => List.not_mem_nil) hcapped
  rw [hmerged, entries_extract]
  rfl

end Concept

-- ============================================================ the theorem

namespace Run

/-- For every limit and every list of paths, extraction lists, in the order of
the table and without empty concepts, each concept with the first of the
distinct paths that show it, as many as the limit allows; a path shows a
concept if one of its directories is called by a keyword or its last component
starts with one. A run whose index has been merged and pruned lists the same
for the files that concepts are looked for in. -/
theorem concepts_are_first_marked :
    (∀ row ∈ Concept.table, ∀ path,
        Concept.shows row.2 path = true ↔ Concept.Marked row.2 path)
      ∧ (∀ limit paths,
          (Concept.extract limit paths).shown.entries
            = Concept.listing limit paths)
      ∧ ∀ (p : Plan) (clock : Int) (wantGraph : Bool) (result : RunResult),
          execute p clock true wantGraph = .ok result →
          ∃ index, result.index = some index ∧ index.concepts.shown.entries
            = Concept.listing p.settings.conceptLimit
              (p.conceptFiles.map (·.path)) := by
  refine ⟨fun row hrow =>
    Concept.shows_iff_marked (Concept.areKeywords_table row hrow),
      Concept.shown_extract, fun p clock wantGraph result hrun => ?_⟩
  -- Every file mentioned is known, so pruning takes nothing away and the merged
  -- concepts are those extracted.
  obtain ⟨found, hfound⟩ := exists_finds p clock
  have hwithin : found.Within (· ∈ p.known true wantGraph) := hfound.within
  have hprune :=
    CodeIndex.prune_of_within (hwithin.merged p.settings.conceptLimit)
  obtain ⟨-, hindex, -⟩ := execute_eq_ok_iff.mp hrun
  unfold Plan.index? at hindex
  rw [if_pos rfl, buildIndex_eq_ok_merged hfound] at hindex
  injection hindex with hindex
  have hindex :
      some ((found.merged p.settings.conceptLimit).prune
        (p.known true wantGraph)) = result.index := hindex
  rw [hprune] at hindex
  refine ⟨found.merged p.settings.conceptLimit, hindex.symm, ?_⟩
  show ((ConceptMap.empty _).merge found.concepts).shown.entries = _
  rw [hfound.concepts]
  refine (congrArg (List.filter _) (Concept.merge_extract _ _)).trans ?_
  exact List.filter_eq_self.mpr fun entry hentry =>
    (List.mem_filter.mp hentry).2

/-- Of the two modules that show a concept, the index has room for the first. -/
theorem concepts_are_first_marked_login :
    Concept.Marked ["auth"] "auth/menu.py".toList
      ∧ ∃ result index, execute loginPlan 0 true false = .ok result
        ∧ result.index = some index
        ∧ index.concepts.shown.entries
          = [("authentication".toList, ["auth/login.py".toList])] := by
  obtain ⟨result, hrun⟩ :
      ∃ result, execute loginPlan 0 true false = .ok result :=
    exists_execute_eq_ok_iff.mpr (by decide +kernel)
  obtain ⟨-, -, hlisted⟩ := concepts_are_first_marked
  obtain ⟨index, hindex, hconcepts⟩ := hlisted loginPlan 0 false result hrun
  refine ⟨by decide +kernel, result, index, hrun, hindex, hconcepts.trans ?_⟩
  decide +kernel

end Run

end SourceAtlas
