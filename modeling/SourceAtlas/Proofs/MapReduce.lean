/-
The five accumulators of a run give the same in one pass as they give in
chunks that are merged. Four of them are tables: adding items is `collect`
with a step of their own, merging is `collect` with a join, and the law is
about one value at a time.

- The last location wins in both, so there is nothing to say.
- A capped list of files drops a file that is there, or one that comes too
  late. A file dropped in its chunk would have been dropped by the whole: a
  file that was offered once is settled, in the list or shut out for good
  (`Settled`), and a full chunk fills whatever it is joined to.
- A set of symbols is determined by its members. A file without symbols
  leaves no trace, so such items are left out first.

The edge set is no table; it is determined by its members.

Consumed by the theory of extraction.
-/
import SourceAtlas.Index
import SourceAtlas.Proofs.Accumulator
import SourceAtlas.Proofs.Graph.Edges

namespace SourceAtlas

-- ============================================================= locations

namespace Table

/-- Of several values the last one counts, also when they are joined. -/
theorem joins_last {α : Type} :
    Joins (last : Option α → α → α) last fun _ => True :=
  ⟨fun _ _ _ => trivial, fun _ _ => rfl, fun _ _ _ _ => rfl⟩

/-- Merging is assigning all entries. -/
theorem merge_eq_collect {α : Type} (t u : Table α) :
    t.merge u = t.collect last u.entries :=
  rfl

/-- Merging what was assigned apart is assigning all of it. -/
theorem merge_collect_last {α : Type} (items more : List (Text × α)) :
    (empty.collect last items).merge (empty.collect last more)
      = empty.collect last (items ++ more) := by
  rw [merge_eq_collect, joins_last.collect_collect, collect_append]

end Table

namespace EntryPointMap

/-- Entry points are collected in a map by key. -/
def accumulator : Accumulator EntryPoint EntryPointMap := ⟨empty, add, merge⟩

/-- What one pass gives is collected by key. -/
theorem onePass_eq (items : List EntryPoint) :
    accumulator.onePass items
      = ⟨Table.empty.collect Table.last
        (items.map fun e => (e.key, e.location))⟩ := by
  have hfrom :
      ∀ m : EntryPointMap,
        items.foldl add m = ⟨m.locations.collect Table.last
          (items.map fun e => (e.key, e.location))⟩ := by
    induction items with
    | nil =>
        intro m
        rfl
    | cons e rest ih =>
        intro m
        exact ih (m.add e)
  exact hfrom empty

/-- Maps in which the last value wins can be collected in chunks. -/
theorem mapReduces : accumulator.MapReduces := by
  refine Accumulator.mapReduces_of_merge fun xs ys => ?_
  rw [onePass_eq, onePass_eq, onePass_eq, List.map_append,
    ← Table.merge_collect_last]
  rfl

end EntryPointMap

namespace TypeMap

/-- Types are collected in a map by name. -/
def accumulator : Accumulator (Text × Location) TypeMap :=
  ⟨empty, fun m item => m.add item.1 item.2, merge⟩

/-- What one pass gives is collected by name. -/
theorem onePass_eq (items : List (Text × Location)) :
    accumulator.onePass items = ⟨Table.empty.collect Table.last items⟩ := by
  have hfrom : ∀ m : TypeMap, items.foldl (fun m item => m.add item.1 item.2) m
      = ⟨m.locations.collect Table.last items⟩ := by
    induction items with
    | nil =>
        intro m
        rfl
    | cons item rest ih =>
        intro m
        exact ih (m.add item.1 item.2)
  exact hfrom empty

theorem mapReduces : accumulator.MapReduces := by
  refine Accumulator.mapReduces_of_merge fun xs ys => ?_
  rw [onePass_eq, onePass_eq, onePass_eq, ← Table.merge_collect_last]
  rfl

end TypeMap

-- ============================================================== concepts

namespace ConceptMap

variable {limit : Int} {files more : List Text} {file other : Text}

/-- Whether offering a file changes nothing: it is in the list, or the list
is full. -/
def Settled (limit : Int) (files : List Text) (file : Text) : Prop :=
  file ∈ files ∨ limit ≤ files.length

theorem addFile_of_settled (h : Settled limit files file) :
    addFile limit files file = files := by
  unfold addFile
  exact if_pos (by simpa [Settled] using h)

/-- A file that is not settled is added at the end. -/
theorem addFile_of_not_settled (h : ¬ Settled limit files file) :
    addFile limit files file = files ++ [file] := by
  unfold addFile
  exact if_neg (by simpa [Settled] using h)

/-- A file that was offered is settled. -/
theorem settled_addFile_self :
    Settled limit (addFile limit files file) file := by
  by_cases h : Settled limit files file
  · rw [addFile_of_settled h]
    exact h
  · rw [addFile_of_not_settled h]
    exact Or.inl (List.mem_append_right _ (List.mem_singleton.mpr rfl))

/-- A settled file stays settled. -/
theorem settled_addFile (h : Settled limit files file) :
    Settled limit (addFile limit files other) file := by
  by_cases hother : Settled limit files other
  · rw [addFile_of_settled hother]
    exact h
  · rw [addFile_of_not_settled hother]
    rcases h with h | h
    · exact Or.inl (List.mem_append_left _ h)
    · refine Or.inr ?_
      rw [List.length_append]
      omega

/-- A file stays settled when more files come. -/
theorem settled_foldl (h : Settled limit files file) :
    Settled limit (more.foldl (addFile limit) files) file := by
  induction more generalizing files with
  | nil => exact h
  | cons next rest ih =>
      rw [List.foldl_cons]
      exact ih (settled_addFile h)

/-- All files that were offered are settled. -/
theorem settled_foldl_of_mem (h : file ∈ more) :
    Settled limit (more.foldl (addFile limit) files) file := by
  induction more generalizing files with
  | nil => cases h
  | cons next rest ih =>
      rw [List.foldl_cons]
      rcases List.mem_cons.mp h with rfl | h
      · exact settled_foldl settled_addFile_self
      · exact ih h

/-- A full list of distinct files fills every list it is added to. -/
theorem full_foldl (hnodup : more.Nodup) (hfull : limit ≤ more.length) :
    limit ≤ (more.foldl (addFile limit) files).length := by
  by_cases h : limit ≤ (more.foldl (addFile limit) files).length
  · exact h
  · have hsub : more ⊆ more.foldl (addFile limit) files := by
      intro f hf
      exact (settled_foldl_of_mem hf).resolve_right h
    have hlen := hnodup.length_le_of_subset hsub
    omega

/-- Adding a file keeps the files distinct. -/
theorem nodup_addFile (h : files.Nodup) : (addFile limit files file).Nodup := by
  by_cases hs : Settled limit files file
  · rwa [addFile_of_settled hs]
  · rw [addFile_of_not_settled hs]
    refine List.nodup_append.mpr ⟨h, by simp, ?_⟩
    intro a ha b hb heq
    rw [List.mem_singleton.mp hb] at heq
    exact hs (Or.inl (heq ▸ ha))

/-- A list that the cap leaves as it is. -/
def Capped (limit : Int) (files : List Text) : Prop :=
  files.Nodup ∧ files.length ≤ limit.toNat

theorem capped_nil : Capped limit [] := ⟨List.nodup_nil, Nat.zero_le _⟩

/-- Adding a file keeps to the cap. -/
theorem capped_addFile (h : Capped limit files) :
    Capped limit (addFile limit files file) := by
  refine ⟨nodup_addFile h.1, ?_⟩
  by_cases hs : Settled limit files file
  · rw [addFile_of_settled hs]
    exact h.2
  · have hroom : ¬ limit ≤ files.length := (not_or.mp hs).2
    rw [addFile_of_not_settled hs, List.length_append, List.length_singleton]
    omega

theorem capped_foldl (h : Capped limit files) :
    Capped limit (more.foldl (addFile limit) files) := by
  induction more generalizing files with
  | nil => exact h
  | cons next rest ih => exact ih (capped_addFile h)

/-- One more file of a concept. -/
def step (limit : Int) (old : Option (List Text)) (file : Text) : List Text :=
  addFile limit (old.getD []) file

/-- Some more files of a concept. -/
def join (limit : Int) (old : Option (List Text)) (files : List Text) :
    List Text :=
  files.foldl (addFile limit) (old.getD [])

/-- The files of a concept that has some. -/
def Made (files : List Text) : Prop := files ≠ [] ∧ files.Nodup

/-- Files that were made by adding stay so. -/
theorem made_step (hlimit : 1 ≤ limit) {old : Option (List Text)}
    (h : ∀ files, old = some files → Made files) :
    Made (step limit old file) := by
  have hnodup : (old.getD []).Nodup := by
    cases old with
    | none => exact List.nodup_nil
    | some files => exact (h files rfl).2
  refine ⟨?_, nodup_addFile hnodup⟩
  unfold step
  by_cases hs : Settled limit (old.getD []) file
  · rw [addFile_of_settled hs]
    intro hnil
    rw [hnil] at hs
    rcases hs with hs | hs
    · cases hs
    · have hs : limit ≤ 0 := hs
      omega
  · rw [addFile_of_not_settled hs]
    simp

/-- Joining lists of files is adding those of the second one by one. -/
theorem joins (hlimit : 1 ≤ limit) :
    Table.Joins (step limit) (join limit) Made := by
  refine ⟨fun _ _ h => made_step hlimit h, ?_, ?_⟩
  · intro old file
    have hnew : ¬ Settled limit [] file := by
      intro h
      rcases h with h | h
      · cases h
      · have h : limit ≤ 0 := h
        omega
    show (addFile limit [] file).foldl (addFile limit) (old.getD []) = _
    rw [addFile_of_not_settled hnew]
    rfl
  · intro old files file hmade
    show (addFile limit files file).foldl (addFile limit) (old.getD [])
      = addFile limit (files.foldl (addFile limit) (old.getD [])) file
    by_cases hs : Settled limit files file
    · -- dropped in the chunk: settled after the chunk as well
      have hall :
          Settled limit (files.foldl (addFile limit) (old.getD [])) file := by
        rcases hs with hs | hs
        · exact settled_foldl_of_mem hs
        · exact Or.inr (full_foldl hmade.2 hs)
      rw [addFile_of_settled hs, addFile_of_settled hall]
    · rw [addFile_of_not_settled hs, List.foldl_append]
      rfl

/-- Concepts with a file each are collected in a capped map. -/
def accumulator (limit : Int) : Accumulator (Text × Text) ConceptMap :=
  ⟨empty limit, fun m item => m.add item.1 item.2, merge⟩

/-- Adding files with their concepts collects them. -/
theorem foldl_add (t : Table (List Text)) (items : List (Text × Text)) :
    items.foldl (fun m item => add m item.1 item.2) ⟨limit, t⟩
      = ⟨limit, t.collect (step limit) items⟩ := by
  induction items generalizing t with
  | nil => rfl
  | cons item rest ih => exact ih _

/-- What one pass gives is collected by concept. -/
theorem onePass_eq (items : List (Text × Text)) :
    (accumulator limit).onePass items
      = ⟨limit, Table.empty.collect (step limit) items⟩ :=
  foldl_add .empty items

/-- Adding some files of one concept is one assignment. -/
theorem foldl_add_files (concept : Text) (t : Table (List Text))
    (h : files ≠ []) :
    files.foldl (fun m file => add m concept file) ⟨limit, t⟩
      = ⟨limit, t.put concept (join limit (t.get? concept) files)⟩ := by
  induction files generalizing t with
  | nil => exact absurd rfl h
  | cons file rest ih =>
      cases rest with
      | nil => rfl
      | cons next others =>
          rw [List.foldl_cons]
          refine (ih _ (List.cons_ne_nil next others)).trans ?_
          rw [Table.put_put, Table.get?_put, if_pos rfl]
          rfl

/-- Merging is joining by concept, as long as no concept is empty. -/
theorem merge_eq {t u : Table (List Text)}
    (h : ∀ entry ∈ u.entries, entry.2 ≠ []) :
    merge ⟨limit, t⟩ ⟨limit, u⟩
      = ⟨limit, t.collect (join limit) u.entries⟩ := by
  unfold merge Table.collect
  show u.entries.foldl _ _ = _
  generalize u.entries = entries at h
  induction entries generalizing t with
  | nil => rfl
  | cons entry rest ih =>
      obtain ⟨hhere, hrest⟩ := List.forall_mem_cons.mp h
      rw [List.foldl_cons, List.foldl_cons]
      show List.foldl _ (entry.2.foldl (fun m file => add m entry.1 file)
        ⟨limit, t⟩) rest = _
      rw [foldl_add_files entry.1 t hhere]
      exact ih hrest

/-- Concepts can be collected in chunks, as long as the limit leaves room for
one file. -/
theorem mapReduces (hlimit : 1 ≤ limit) : (accumulator limit).MapReduces := by
  refine Accumulator.mapReduces_of_merge fun xs ys => ?_
  have hmade :
      ∀ entry ∈ (Table.empty.collect (step limit) ys).entries,
        entry.2 ≠ [] := by
    intro entry hentry
    have hget := Table.get?_eq_some_iff.mpr hentry
    refine (Table.forall_values_collect (P := Made) Table.forall_values_empty ?_
      entry.1 entry.2 hget).1
    intro item _ old hold
    exact made_step hlimit hold
  rw [onePass_eq, onePass_eq, onePass_eq]
  show merge _ _ = _
  rw [merge_eq hmade, (joins hlimit).collect_collect, Table.collect_append]

end ConceptMap

-- =============================================================== exports

namespace ExportMap

/-- Whether an item has a symbol to add. -/
def shown (item : Text × List Text) : Bool :=
  item.2.any fun symbol => !symbol.isEmpty

/-- The symbols of a file and some more. -/
def step (old : Option (List Text)) (symbols : List Text) : List Text :=
  Ordered.insertAll (symbols.filter fun symbol => !symbol.isEmpty)
    (Ordered.ofList (old.getD []))

/-- After a step a file has the symbols that it had and the new ones that are
not empty. -/
theorem mem_step {old : Option (List Text)} {symbols : List Text}
    {symbol : Text} :
    symbol ∈ step old symbols
      ↔ (symbol ∈ symbols ∧ symbol ≠ []) ∨ symbol ∈ old.getD [] := by
  unfold step
  rw [Ordered.mem_insertAll, Ordered.mem_ofList, List.mem_filter]
  simp

/-- The symbols of a file stay increasing. -/
theorem pairwise_step (old : Option (List Text)) (symbols : List Text) :
    (step old symbols).Pairwise (· < ·) :=
  Ordered.pairwise_insertAll (Ordered.pairwise_ofList _)

/-- Sets of symbols are joined by their members. -/
theorem joins : Table.Joins step step fun _ => True := by
  refine ⟨fun _ _ _ => trivial, ?_, ?_⟩
  · intro old symbols
    refine Ordered.eq_of_mem_iff (pairwise_step _ _) (pairwise_step _ _)
      fun symbol => ?_
    rw [mem_step, mem_step, mem_step]
    simp
  · intro old value symbols _
    refine Ordered.eq_of_mem_iff (pairwise_step _ _) (pairwise_step _ _)
      fun symbol => ?_
    simp only [mem_step, Option.getD_some]
    rw [or_and_right, and_assoc, and_self, or_assoc]

/-- An item shows if one of its symbols is not empty. -/
theorem shown_iff {item : Text × List Text} :
    shown item = true ↔ ∃ symbol ∈ item.2, symbol ≠ [] := by
  unfold shown
  rw [List.any_eq_true]
  simp

/-- A symbol to add is a symbol in the set. -/
theorem step_ne_nil {item : Text × List Text} (h : shown item = true)
    (old : Option (List Text)) : step old item.2 ≠ [] := by
  obtain ⟨symbol, hmem, hne⟩ := shown_iff.mp h
  exact List.ne_nil_of_mem (mem_step.mpr (Or.inl ⟨hmem, hne⟩))

/-- Without a symbol to add the set stays as it is. -/
theorem step_of_not_shown {item : Text × List Text} (h : ¬ shown item = true)
    {old : Option (List Text)} (hold : (old.getD []).Pairwise (· < ·)) :
    step old item.2 = old.getD [] := by
  refine Ordered.eq_of_mem_iff (pairwise_step _ _) hold fun symbol => ?_
  rw [mem_step]
  constructor
  · intro hmem
    rcases hmem with ⟨hmem, hne⟩ | hmem
    · exact absurd (shown_iff.mpr ⟨symbol, hmem, hne⟩) h
    · exact hmem
  · exact Or.inr

/-- A file whose set stays empty is not entered. -/
theorem add_of_step_eq_nil {t : Table (List Text)} {file : Text}
    {symbols : List Text} (h : step (t.get? file) symbols = []) :
    add ⟨t⟩ file symbols = ⟨t⟩ := by
  unfold add
  unfold step at h
  rw [h]

/-- Any other set is assigned. -/
theorem add_of_step_ne_nil {t : Table (List Text)} {file : Text}
    {symbols : List Text} (h : step (t.get? file) symbols ≠ []) :
    add ⟨t⟩ file symbols = ⟨t.put file (step (t.get? file) symbols)⟩ := by
  unfold add
  split
  · next hnil => exact absurd hnil h
  · rfl

/-- Adding to sets of symbols is one assignment, or nothing at all. -/
theorem add_eq {t : Table (List Text)}
    (ht : ∀ k v, t.get? k = some v → v.Pairwise (· < ·))
    (item : Text × List Text) :
    add ⟨t⟩ item.1 item.2
      = ⟨if shown item then t.put item.1 (step (t.get? item.1) item.2)
        else t⟩ := by
  by_cases hs : shown item = true
  · rw [if_pos hs, add_of_step_ne_nil (step_ne_nil hs _)]
  · rw [if_neg hs]
    cases hget : t.get? item.1 with
    | none =>
        refine add_of_step_eq_nil ?_
        rw [hget, step_of_not_shown hs List.Pairwise.nil, Option.getD_none]
    | some value =>
        -- the set is assigned once more, which changes nothing
        have hvalue : step (t.get? item.1) item.2 = value := by
          rw [hget]
          exact step_of_not_shown hs (ht item.1 value hget)
        by_cases hnil : value = []
        · exact add_of_step_eq_nil (hvalue.trans hnil)
        · rw [add_of_step_ne_nil (fun h => hnil (hvalue.symm.trans h)), hvalue,
            Table.put_eq_self hget]

/-- Adding items is collecting those that have a symbol to add. -/
theorem foldl_add {t : Table (List Text)}
    (ht : ∀ k v, t.get? k = some v → v.Pairwise (· < ·))
    (items : List (Text × List Text)) :
    items.foldl (fun m item => add m item.1 item.2) ⟨t⟩
      = ⟨t.collect step (items.filter shown)⟩ := by
  induction items generalizing t with
  | nil => rfl
  | cons item rest ih =>
      rw [List.foldl_cons, add_eq ht, List.filter_cons]
      split
      · exact ih (Table.forall_values_put ht (pairwise_step _ _))
      · exact ih ht

/-- Files with their symbols are collected in a map of sets. -/
def accumulator : Accumulator (Text × List Text) ExportMap :=
  ⟨empty, fun m item => m.add item.1 item.2, merge⟩

/-- What one pass gives is collected by file. -/
theorem onePass_eq (items : List (Text × List Text)) :
    accumulator.onePass items
      = ⟨Table.empty.collect step (items.filter shown)⟩ :=
  foldl_add Table.forall_values_empty items

theorem mapReduces : accumulator.MapReduces := by
  refine Accumulator.mapReduces_of_merge fun xs ys => ?_
  have hvalues : ∀ zs k v, (Table.empty.collect step zs).get? k = some v →
      v.Pairwise (· < ·) := by
    intro zs
    refine Table.forall_values_collect Table.forall_values_empty ?_
    intro item _ old _
    exact pairwise_step old item.2
  -- what the second chunk holds has a symbol to add, so nothing is left out
  -- again
  have hshown : ∀ entry ∈ (Table.empty.collect step (ys.filter shown)).entries,
      shown entry = true := by
    intro entry hentry
    have hget := Table.get?_eq_some_iff.mpr hentry
    refine shown_iff.mpr ?_
    refine Table.forall_values_collect (P := fun v => ∃ symbol ∈ v, symbol ≠ [])
      Table.forall_values_empty ?_ entry.1 entry.2 hget
    intro item hitem old _
    obtain ⟨symbol, hmem, hne⟩ := shown_iff.mp (List.mem_filter.mp hitem).2
    exact ⟨symbol, mem_step.mpr (Or.inl ⟨hmem, hne⟩), hne⟩
  rw [onePass_eq, onePass_eq, onePass_eq]
  show List.foldl _ _ _ = _
  rw [foldl_add (hvalues _), List.filter_eq_self.mpr hshown,
    joins.collect_collect, List.filter_append, Table.collect_append]

end ExportMap

-- ================================================================= edges

namespace EdgeSet

/-- Edges are collected in a set. -/
def accumulator : Accumulator Edge EdgeSet := ⟨empty, add, merge⟩

theorem mapReduces : accumulator.MapReduces := by
  refine Accumulator.mapReduces_of_merge fun xs ys => ?_
  show (ofList xs).merge (ofList ys) = ofList (xs ++ ys)
  refine ext_mem fun e => ?_
  rw [mem_merge, mem_ofList, mem_ofList, mem_ofList, List.mem_append,
    or_and_right, or_comm]

end EdgeSet

-- =========================================================== the theorem

/-- For each of the five accumulators, merging what two lists of items give
is one pass over both, and so is merging any chunks in any grouping. -/
theorem chunks_reduce_to_one_pass :
    (∀ limit : Int, 1 ≤ limit → (ConceptMap.accumulator limit).MapReduces)
      ∧ EntryPointMap.accumulator.MapReduces ∧ ExportMap.accumulator.MapReduces
      ∧ TypeMap.accumulator.MapReduces ∧ EdgeSet.accumulator.MapReduces :=
  ⟨fun _ hlimit => ConceptMap.mapReduces hlimit, EntryPointMap.mapReduces,
    ExportMap.mapReduces, TypeMap.mapReduces, EdgeSet.mapReduces⟩

/-- With room for two files a concept: both chunks are full, the second one
repeats a file of the first, and its third file is dropped in either way. -/
theorem chunks_reduce_to_one_pass_full :
    (1 : Int) ≤ 2 ∧ ∃ first second,
      first = [("api".toList, "a.py".toList), ("api".toList, "b.py".toList)]
      ∧ second = [("db".toList, "c.py".toList), ("api".toList, "b.py".toList),
        ("api".toList, "d.py".toList), ("api".toList, "e.py".toList)]
      ∧ (ConceptMap.accumulator 2).merge
          ((ConceptMap.accumulator 2).onePass first)
          ((ConceptMap.accumulator 2).onePass second)
        = (ConceptMap.accumulator 2).onePass (first ++ second) :=
  ⟨by decide, _, _, rfl, rfl,
    (chunks_reduce_to_one_pass.1 2 (by decide)).merge_onePass _ _⟩

end SourceAtlas
