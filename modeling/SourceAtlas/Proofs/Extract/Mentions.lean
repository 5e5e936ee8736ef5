/-
Which files the four maps of an index mention. Each extractor adds entries
that name the file it is reading and nothing else, so whatever is true of
all files it reads is true of all files its map mentions. Adding and merging
bring in no file that was not given to them, which is why a second merge,
into an empty map, mentions no more than the first.

`Within` says this for each of the four maps; the argument for all of them
is the one about tables (`Table.All`).

Consumed by the theory of the run's index.
-/
import SourceAtlas.Concept
import SourceAtlas.Proofs.Extract.Basic

namespace SourceAtlas

-- ================================================================ tables

namespace Table

variable {α : Type} {P : Text → α → Prop} {t u : Table α}

/-- Every entry has the property. -/
def All (P : Text → α → Prop) (t : Table α) : Prop :=
  ∀ entry ∈ t.entries, P entry.1 entry.2

/-- An empty table has nothing to fail a condition. -/
theorem all_empty : (empty : Table α).All P := by
  intro entry h
  cases h

/-- Assigning a value that meets a condition keeps it. -/
theorem all_put (ht : t.All P) {key : Text} {value : α} (h : P key value) :
    (t.put key value).All P := by
  intro entry hentry
  have hget := get?_eq_some_iff.mpr hentry
  rw [get?_put] at hget
  split at hget
  case isTrue hkey =>
    rw [hkey, ← Option.some.inj hget]
    exact h
  case isFalse => exact ht entry (get?_eq_some_iff.mp hget)

theorem all_merge (ht : t.All P) (hu : u.All P) : (t.merge u).All P := by
  unfold merge
  unfold All at hu
  generalize u.entries = entries at hu
  induction entries generalizing t with
  | nil => exact ht
  | cons first rest ih =>
      obtain ⟨hfirst, hrest⟩ := List.forall_mem_cons.mp hu
      rw [List.foldl_cons]
      exact ih (all_put ht hfirst) hrest

end Table

/-- What every step of a fold keeps holds at its end. -/
private theorem foldl_keeps {α σ : Type} {I : σ → Prop} {step : σ → α → σ}
    {items : List α} {s : σ} (hs : I s)
    (h : ∀ s, I s → ∀ item ∈ items, I (step s item)) : I (items.foldl step s) :=
  List.foldlRecOn items step hs h

variable {P : Text → Prop}

-- ============================================================== concepts

namespace ConceptMap

/-- Every file that the map mentions has the property. -/
def Within (P : Text → Prop) (m : ConceptMap) : Prop :=
  m.files.All fun _ files => ∀ file ∈ files, P file

/-- Adding a file adds no other mention. -/
theorem within_add {m : ConceptMap} (hm : m.Within P) (concept : Text)
    {file : Text} (h : P file) : (m.add concept file).Within P := by
  refine Table.all_put hm ?_
  -- the files that are there for the concept, and perhaps one more
  have hold : ∀ old ∈ (m.files.get? concept).getD [], P old := by
    intro old hmem
    cases hget : m.files.get? concept with
    | none =>
        rw [hget] at hmem
        cases hmem
    | some files =>
        rw [hget] at hmem
        obtain ⟨before, after, hentries, -⟩ := List.lookup_eq_some_iff.mp hget
        have hentry : (concept, files) ∈ m.files.entries := by
          rw [hentries]
          exact List.mem_append_right before List.mem_cons_self
        exact hm _ hentry old hmem
  unfold addFile
  split
  · exact hold
  · intro f hf
    rcases List.mem_append.mp hf with hf | hf
    · exact hold f hf
    · rw [List.mem_singleton.mp hf]
      exact h

theorem within_merge {m other : ConceptMap} (hm : m.Within P)
    (ho : other.Within P) : (m.merge other).Within P := by
  refine foldl_keeps hm ?_
  intro acc hacc entry hentry
  refine foldl_keeps hacc ?_
  intro acc' hacc' file hfile
  exact within_add hacc' entry.1 (ho entry hentry file hfile)

end ConceptMap

/-- Concepts are found in the given paths. -/
theorem Concept.within_extract {limit : Int} {paths : List Text}
    (h : ∀ path ∈ paths, P path) : (extract limit paths).Within P := by
  refine foldl_keeps ?_ ?_
  · -- before the first path all concepts are there without a file
    intro entry hentry
    obtain ⟨pair, -, rfl⟩ := List.mem_map.mp hentry
    intro file hfile
    cases hfile
  · intro m hm path hpath
    refine ConceptMap.within_merge hm ?_
    refine foldl_keeps Table.all_empty ?_
    intro m' hm' pair _
    show ConceptMap.Within P (if _ then _ else _)
    split
    · exact ConceptMap.within_add hm' _ (h path hpath)
    · exact hm'

-- ========================================================== entry points

namespace EntryPointMap

/-- Every file that the map mentions has the property. -/
def Within (P : Text → Prop) (m : EntryPointMap) : Prop :=
  m.locations.All fun _ location => P location.file

/-- Entry points mention the files that declare them. -/
theorem within_ofList {entries : List EntryPoint}
    (h : ∀ e ∈ entries, P e.location.file) : (ofList entries).Within P :=
  foldl_keeps Table.all_empty fun _ hm e he => Table.all_put hm (h e he)

end EntryPointMap

namespace Route

/-- Whatever a strategy finds in a file is located there. -/
theorem Strategy.file_of_mem_entries {s : Strategy} {f : SourceFile}
    {text : Text} {e : EntryPoint} (h : e ∈ s.entries f text) :
    e.location.file = f.path := by
  unfold entries at h
  split at h
  case h_2 => cases h
  case h_1 found hscan =>
    -- Each strategy builds its locations in its own way.
    cases s with
    | appDirectory =>
        cases hsegments : appSegments f with
        | error problem =>
            rw [scan, scanApp, hsegments] at hscan
            cases hscan
        | ok segments =>
            rw [scan, scanApp, hsegments] at hscan
            injection hscan with hscan
            rw [← hscan] at h
            obtain ⟨pair, -, rfl⟩ := List.mem_map.mp h
            rfl
    | pagesDirectory =>
        cases hsegments : pagesSegments f with
        | error problem =>
            rw [scan, scanPages, hsegments] at hscan
            cases hscan
        | ok segments =>
            rw [scan, scanPages, hsegments] at hscan
            injection hscan with hscan
            rw [← hscan] at h
            rw [List.mem_singleton.mp h]
    | call =>
        injection hscan with hscan
        rw [← hscan] at h
        obtain ⟨line, -, h⟩ := List.mem_flatMap.mp h
        obtain ⟨m, -, h⟩ := List.mem_filterMap.mp h
        obtain ⟨path, -, rfl⟩ := Option.map_eq_some_iff.mp h
        rfl
    | decorator =>
        injection hscan with hscan
        rw [← hscan] at h
        obtain ⟨⟨n, line⟩, -, h⟩ := List.mem_flatMap.mp h
        simp only [scanDecoratorLine] at h
        split at h
        case h_1 => cases h
        case h_2 =>
          split at h
          case h_1 => cases h
          case h_2 =>
            obtain ⟨verb, -, rfl⟩ := List.mem_map.mp h
            rfl
    | goCall =>
        injection hscan with hscan
        rw [← hscan] at h
        obtain ⟨line, -, h⟩ := List.mem_flatMap.mp h
        rcases List.mem_append.mp h with h | h
        · obtain ⟨m, -, rfl⟩ := List.mem_map.mp h
          rfl
        · obtain ⟨m, -, rfl⟩ := List.mem_map.mp h
          rfl

end Route

-- ==================================================== exports and types

/-- Every file that the map mentions has the property. -/
def ExportMap.Within (P : Text → Prop) (m : ExportMap) : Prop :=
  m.symbols.All fun file _ => P file

/-- Adding symbols of a file adds no other mention. -/
theorem ExportMap.within_add {m : ExportMap} (hm : m.Within P) {file : Text}
    (symbols : List Text) (h : P file) : (m.add file symbols).Within P := by
  unfold add
  split
  · exact hm
  · exact Table.all_put hm h

theorem ExportMap.within_merge {m other : ExportMap} (hm : m.Within P)
    (ho : other.Within P) : (m.merge other).Within P :=
  foldl_keeps hm fun _ hacc entry hentry =>
    within_add hacc entry.2 (ho entry hentry)

/-- Every file that the map mentions has the property. -/
def TypeMap.Within (P : Text → Prop) (m : TypeMap) : Prop :=
  m.locations.All fun _ location => P location.file

namespace Extract

variable {root : Node} {survey : Survey}

-- ============================================================ extraction

/-- Entry points that are extracted mention surveyed files. -/
theorem within_mergeEntries {strategies : List Route.Strategy}
    (h : ∀ s ∈ strategies,
      ∀ f ∈ (survey.enumerate root (strategyFilter s)).1, P f.path) :
    (mergeEntries (strategies.flatMap (strategyEntries root survey))).Within
      P := by
  refine foldl_keeps Table.all_empty ?_
  intro m hm found hfound
  obtain ⟨s, hs, hfound⟩ := List.mem_flatMap.mp hfound
  obtain ⟨⟨f, text⟩, hitem, rfl⟩ := List.mem_map.mp hfound
  obtain ⟨hf, -⟩ := mem_texts.mp hitem
  refine Table.all_merge hm (EntryPointMap.within_ofList ?_)
  intro e he
  rw [Route.Strategy.file_of_mem_entries he]
  exact h s hs f (List.mem_filter.mp hf).1

theorem within_exports {language : Option Language}
    (h : ∀ l, language = some l
      → ∀ f ∈ (survey.enumerate root (exportFilter l)).1, P f.path) :
    (exports root language survey).1.Within P := by
  cases language with
  | none => exact Table.all_empty
  | some l =>
      refine foldl_keeps Table.all_empty ?_
      intro m hm item hitem
      obtain ⟨hf, -⟩ := mem_texts.mp hitem
      exact ExportMap.within_merge hm
        (ExportMap.within_add Table.all_empty _ (h l rfl _ hf))

theorem within_types {language : Option Language}
    (h : ∀ l, language = some l
      → ∀ f ∈ (survey.enumerate root (typeFilter l)).1, P f.path) :
    (types root language survey).1.Within P := by
  cases language with
  | none => exact Table.all_empty
  | some l =>
      refine foldl_keeps Table.all_empty ?_
      intro m hm item hitem
      obtain ⟨hf, -⟩ := mem_texts.mp hitem
      refine Table.all_merge hm ?_
      refine foldl_keeps (I := TypeMap.Within P) Table.all_empty ?_
      intro m' hm' pair _
      exact Table.all_put hm' (h l rfl _ hf)

end Extract

end SourceAtlas
