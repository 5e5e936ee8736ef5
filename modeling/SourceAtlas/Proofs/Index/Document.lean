/-
The text of an index document determines what the index holds, and nothing
else: the time it was made, the kind of the project, the concepts that have
files in their order, and the other three maps as finite maps. The order in
which those three were filled does not show, because they are written by
key.

From the text back to the document is the theory of the writer; from the
document back to the index every part is read off by itself. A location is
written as file, colon, line: the file may hold colons and digits, but the
numeral of the line holds no colon, so the last colon is the one between
them.
-/
import SourceAtlas.Index
import SourceAtlas.Proofs.Json.Writer
import SourceAtlas.Proofs.Table
import SourceAtlas.Proofs.Text.Split

namespace SourceAtlas

-- ==================================================================== texts

/-- The text of a location determines it. -/
theorem Location.text_injective {a b : Location} (h : a.text = b.text) :
    a = b := by
  have hcolon : ∀ n : Int, ':' ∉ Text.ofInt n := by
    intro n hmem
    exact absurd (Text.eq_minus_or_isDigit_of_mem_ofInt hmem) (by decide)
  have hcut :
      ∀ l : Location, Text.cutLast? [':'] l.text
        = some (l.file, Text.ofInt l.line) :=
    fun l => Text.cutLast?_append l.file (hcolon l.line)
  have hboth := hcut a
  rw [h, hcut b, Option.some.injEq, Prod.mk.injEq] at hboth
  obtain ⟨hfile, hline⟩ := hboth
  cases a
  cases b
  rw [Location.mk.injEq]
  exact ⟨hfile.symm, (Text.ofInt_injective hline).symm⟩

/-- What can be read back is written in one way only. -/
theorem write_eq_iff_of_read {α : Type} {write : α → Text}
    {read : Text → Option α} (h : ∀ x, read (write x) = some x) {x y : α} :
    write x = write y ↔ x = y := by
  constructor
  · intro hwrite
    have hx := h x
    rw [hwrite, h y] at hx
    exact (Option.some.inj hx).symm
  · exact congrArg write

/-- A profile can be told from its text. -/
theorem Profile.ofText?_text (p : Profile) : ofText? p.text = some p := by
  cases p <;> rfl

theorem Framework.ofText?_text (f : Framework) : ofText? f.text = some f := by
  cases f <;> rfl

/-- The module name does not show in the kind of a project. -/
theorem Project.kind_congr {p q : Project} (hprofile : p.profile = q.profile)
    (hframework : p.framework = q.framework) : p.kind = q.kind := by
  unfold kind
  rw [hprofile, hframework]

-- ==================================================================== parts

namespace Json

/-- An object with a member for each entry, whose values are plain. -/
theorem plain_object_map {α : Type} {value : α → Json}
    (h : ∀ x, (value x).Plain) (entries : List (Text × α)) :
    (object (entries.map fun entry => (entry.1, value entry.2))).Plain := by
  refine .object fun member hmember => ?_
  obtain ⟨entry, -, rfl⟩ := List.mem_map.mp hmember
  exact h entry.2

/-- Such an object determines the entries if their values are determined. -/
theorem object_map_inj {α : Type} {value : α → Json}
    (h : ∀ x y, value x = value y → x = y) {xs ys : List (Text × α)} :
    object (xs.map fun entry => (entry.1, value entry.2))
        = object (ys.map fun entry => (entry.1, value entry.2)) ↔ xs = ys := by
  rw [object.injEq]
  refine List.map_inj_right fun x y hxy => ?_
  obtain ⟨hkey, hvalue⟩ := Prod.mk.inj hxy
  exact Prod.ext hkey (h _ _ hvalue)

theorem plain_texts (items : List Text) : (texts items).Plain := by
  refine .array fun item hitem => ?_
  obtain ⟨t, -, rfl⟩ := List.mem_map.mp hitem
  exact .string t

/-- A list of texts can be told from its document. -/
theorem texts_injective (xs ys : List Text) (h : texts xs = texts ys) :
    xs = ys :=
  (List.map_inj_right fun _ _ => string.inj).mp (array.inj h)

end Json

/-- The concepts that are shown are those that have a file. -/
theorem ConceptMap.shown_entries (m : ConceptMap) :
    m.shown.entries = m.files.entries.filter fun entry => entry.2 ≠ [] := by
  refine List.filter_congr fun entry _ => ?_
  obtain ⟨concept, files⟩ := entry
  cases files with
  | nil => rfl
  | cons file files => rfl

/-- Locations by key are the same exactly if they are the same map. -/
theorem locationsByKey_inj {t u : Table Location} :
    locationsByKey t = locationsByKey u ↔ ∀ key, t.get? key = u.get? key := by
  rw [← Table.sorted_eq_iff]
  exact Json.object_map_inj fun x y h =>
    Location.text_injective (Json.string.inj h)

-- ================================================================ documents

namespace CodeIndex

variable {a b : CodeIndex}

/-- Two indexes hold the same: the concepts that have files in the same
order, and the other three maps with the same values, in whatever order they
were filled. -/
structure Agree (a b : CodeIndex) : Prop where
  generated : a.generated = b.generated
  profile : a.project.profile = b.project.profile
  framework : a.project.framework = b.project.framework
  concepts : a.concepts.files.entries.filter (fun entry => entry.2 ≠ [])
    = b.concepts.files.entries.filter (fun entry => entry.2 ≠ [])
  entryPoints : ∀ key,
    a.entryPoints.locations.get? key = b.entryPoints.locations.get? key
  exports : ∀ file, a.exports.symbols.get? file = b.exports.symbols.get? file
  types : ∀ name, a.types.locations.get? name = b.types.locations.get? name

/-- The document of an index is plain. -/
theorem plain_document (index : CodeIndex) : index.document.Plain := by
  have hlocations : ∀ t, (locationsByKey t).Plain :=
    fun t => Json.plain_object_map (fun _ => .string _) t.sorted
  have htexts := @Json.plain_object_map _ _ Json.plain_texts
  refine .object ?_
  simp only [List.forall_mem_cons]
  exact ⟨.string _, .integer _, .string _, .string _, .string _, htexts _,
    hlocations _, htexts _, hlocations _, fun _ h => absurd h List.not_mem_nil⟩

/-- The document of an index tells what it holds. -/
theorem document_eq_iff : a.document = b.document ↔ a.Agree b := by
  have hconcepts :=
    @Json.object_map_inj _ _ Json.texts_injective a.concepts.shown.entries
      b.concepts.shown.entries
  rw [ConceptMap.shown_entries, ConceptMap.shown_entries] at hconcepts
  have hentries :=
    @locationsByKey_inj a.entryPoints.locations b.entryPoints.locations
  have hexports :=
    @Json.object_map_inj _ _ Json.texts_injective a.exports.symbols.sorted
      b.exports.symbols.sorted
  rw [Table.sorted_eq_iff] at hexports
  have htypes := @locationsByKey_inj a.types.locations b.types.locations
  constructor
  · intro h
    -- the third member, the kind, says nothing that the next two do not say
    have hmembers := Json.object.inj h
    simp only [List.cons.injEq, Prod.mk.injEq, true_and, and_true,
      Json.integer.injEq, Json.string.injEq,
      write_eq_iff_of_read Profile.ofText?_text,
      write_eq_iff_of_read Framework.ofText?_text, ConceptMap.shown_entries]
      at hmembers
    obtain ⟨hgenerated, -, hprofile, hframework, hc, he, hx, ht⟩ := hmembers
    exact ⟨hgenerated, hprofile, hframework, hconcepts.mp hc, hentries.mp he,
      hexports.mp hx, htypes.mp ht⟩
  · intro h
    unfold document
    rw [h.generated, Project.kind_congr h.profile h.framework, h.profile,
      h.framework, ConceptMap.shown_entries, ConceptMap.shown_entries,
      h.concepts, hentries.mpr h.entryPoints, hexports.mpr h.exports,
      htypes.mpr h.types]

-- ============================================================== the theorem

/-- Two indexes have the same text exactly if they hold the same; the order in
which the maps were filled shows in the concepts only. -/
theorem render_eq_iff_agree (a b : CodeIndex) :
    a.render = b.render ↔ a.Agree b := by
  rw [← document_eq_iff]
  constructor
  · exact Json.write_inj a.plain_document b.plain_document
  · exact congrArg Json.write

/-- An index of two routes and a type, in files whose names hold colons, a
line break and a character beyond the first plane. -/
def crowdedIndex : CodeIndex :=
  { project := ⟨.go, .none, ['m']⟩
    generated := -1
    concepts := (ConceptMap.empty 1).add "auth" "a:1"
    entryPoints := (EntryPointMap.empty.add ⟨"GET", "/x", ⟨"a:1", 2⟩⟩).add
      ⟨"GET", "/y", ⟨['\n', Char.ofNat 0x1f600], -3⟩⟩
    types := TypeMap.empty.add "T" ⟨"a:1", 2⟩ }

/-- The routes in the other order, and a concept that has lost its file. -/
def reorderedIndex : CodeIndex :=
  { crowdedIndex with
    concepts := (((ConceptMap.empty 1).add "db" "b").add "auth" "a:1").prune
      ["a:1"]
    entryPoints :=
      (EntryPointMap.empty.add
        ⟨"GET", "/y", ⟨['\n', Char.ofNat 0x1f600], -3⟩⟩).add
        ⟨"GET", "/x", ⟨"a:1", 2⟩⟩ }

/-- The type in another file, on a line that takes up the rest of its name. -/
def shiftedIndex : CodeIndex :=
  { crowdedIndex with types := TypeMap.empty.add "T" ⟨"a", 12⟩ }

/-- The first two texts are the same, the third is not. -/
theorem render_eq_iff_agree_crowded :
    crowdedIndex ≠ reorderedIndex ∧ crowdedIndex.render = reorderedIndex.render
      ∧ crowdedIndex.render ≠ shiftedIndex.render := by
  refine ⟨by decide, ?_, ?_⟩
  · have hroutes : ∀ key, crowdedIndex.entryPoints.locations.get? key
        = reorderedIndex.entryPoints.locations.get? key := by
      rw [← Table.sorted_eq_iff]
      decide
    exact (render_eq_iff_agree crowdedIndex reorderedIndex).mpr
      ⟨rfl, rfl, rfl, by decide, hroutes, fun _ => rfl, fun _ => rfl⟩
  · intro h
    have hagree := (render_eq_iff_agree crowdedIndex shiftedIndex).mp h
    exact absurd (hagree.types "T") (by decide)

end CodeIndex

end SourceAtlas
