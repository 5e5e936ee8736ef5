/-
What extraction keeps when several declarations collide. Inside a file the
first declaration of a type counts; across files, and for entry points
everywhere, the last one does.

Both maps are one pass over everything that is declared, in order
(`types_eq_onePass`, `exists_entryPoints_eq_onePass`), because merging the
partial results of the files is one pass over them. Hence looking up a key is a
search from the back: over the entry points one by one, over the types file by
file and, in the file where the search stops, from the front.

The policy is stated without the maps, by the place of the winner in the
order of the files or of the entry points (`IsLast`, `FirstDeclared`).
-/
import SourceAtlas.Proofs.Extract.Basic
import SourceAtlas.Proofs.MapReduce

namespace SourceAtlas

-- ======================================================== the last of a list

/-- An item has the property, and no item behind it has. -/
def IsLast {α : Type} (P : α → Prop) (items : List α) (x : α) : Prop :=
  ∃ before after, items = before ++ x :: after ∧ P x
    ∧ ∀ later ∈ after, ¬ P later

/-- The last of its kind is of that kind. -/
theorem IsLast.holds {α : Type} {P : α → Prop} {items : List α} {x : α}
    (h : IsLast P items x) : P x := by
  obtain ⟨before, after, -, hx, -⟩ := h
  exact hx

/-- The last of a kind depends on the kind only. -/
theorem isLast_congr {α : Type} {P Q : α → Prop} (h : ∀ x, P x ↔ Q x)
    {items : List α} {x : α} : IsLast P items x ↔ IsLast Q items x := by
  have hPQ : P = Q := funext fun y => propext (h y)
  rw [hPQ]

/-- A search from the back stops at the last item that has an answer. -/
theorem findSome?_reverse_eq_some_iff {α β : Type} {answer : α → Option β}
    {items : List α} {y : β} :
    items.reverse.findSome? answer = some y
      ↔ ∃ x, IsLast (fun x => answer x ≠ none) items x ∧ answer x = some y := by
  rw [List.findSome?_eq_some_iff]
  constructor
  · intro h
    obtain ⟨after, x, before, hitems, hx, hafter⟩ := h
    rw [List.reverse_eq_append_iff, List.reverse_cons, List.append_assoc]
      at hitems
    refine ⟨x, ⟨before.reverse, after.reverse, hitems, ?_, ?_⟩, hx⟩
    · intro hnone
      rw [hx] at hnone
      cases hnone
    · intro later hlater
      exact not_not_intro (hafter later (List.mem_reverse.mp hlater))
  · intro h
    obtain ⟨x, ⟨before, after, hitems, -, hafter⟩, hx⟩ := h
    refine ⟨after.reverse, x, before.reverse, ?_, hx, ?_⟩
    · rw [hitems]
      simp
    · intro later hlater
      exact Decidable.not_not.mp (hafter later (List.mem_reverse.mp hlater))

section Lookup

variable {ι κ α β : Type} [BEq κ]

/-- Looking up in several lists one after the other. -/
theorem lookup_flatMap {items : List ι} {part : ι → List (κ × α)} {key : κ} :
    (items.flatMap part).lookup key = items.findSome? fun item =>
      (part item).lookup key := by
  induction items with
  | nil => rfl
  | cons item rest ih =>
      rw [List.flatMap_cons, List.lookup_append, ih, List.findSome?_cons]
      cases (part item).lookup key with
      | some value => rfl
      | none => rfl

/-- Looking up among values that were mapped. -/
theorem lookup_map_snd {pairs : List (κ × α)} {f : α → β} {key : κ} :
    (pairs.map fun pair => (pair.1, f pair.2)).lookup key
      = (pairs.lookup key).map f := by
  induction pairs with
  | nil => rfl
  | cons pair rest ih =>
      rw [List.map_cons, List.lookup_cons, List.lookup_cons, ih]
      cases key == pair.1 with
      | true => rfl
      | false => rfl

end Lookup

-- ============================================================ one file's types

namespace TypeDeclaration

/-- The line of the first declaration of a name in a text. -/
def FirstDeclared (l : Language) (text : Text) (name : Text) (line : Nat) :
    Prop :=
  ∃ before after, occurrences l text = before ++ (name, line) :: after
    ∧ ∀ earlier ∈ before, earlier.1 ≠ name

/-- A name stands only once among the first ones, so a search for it from the
back finds the first pair of all. -/
theorem lookup_reverse_firstPerName (pairs : List (Text × Nat)) (name : Text) :
    (firstPerName pairs).reverse.lookup name = pairs.lookup name := by
  induction pairs with
  | nil => rfl
  | cons pair rest ih =>
      obtain ⟨first, line⟩ := pair
      rw [firstPerName, List.reverse_cons, List.lookup_append,
        ← List.filter_reverse, lookup_filter_ne, ih, List.lookup_cons,
        List.lookup_cons]
      by_cases hname : name = first
      · rw [if_pos hname, Option.none_or]
        simp [hname]
      · rw [if_neg hname, beq_eq_false_iff_ne.mpr hname]
        exact Option.or_none

/-- The first declaration of a name is the one that is looked up. -/
theorem firstDeclared_iff {l : Language} {text name : Text} {line : Nat} :
    FirstDeclared l text name line
      ↔ (occurrences l text).lookup name = some line := by
  rw [List.lookup_eq_some_iff]
  simp only [bne_iff_ne, ne_comm (a := name)]
  rfl

/-- A name that is not looked up does not occur. -/
theorem lookup_occurrences_eq_none_iff {l : Language} {text name : Text} :
    (occurrences l text).lookup name = none
      ↔ ∀ line, (name, line) ∉ occurrences l text := by
  rw [List.lookup_eq_none_iff]
  constructor
  · intro h line hmem
    simpa using h _ hmem
  · intro h pair hmem
    rw [bne_iff_ne]
    intro hname
    exact h pair.2 (hname ▸ hmem)

end TypeDeclaration

namespace Extract

open TypeDeclaration

variable {root : Node} {survey : Survey}

-- ======================================================== everything declared

/-- What the files that can be opened contribute, in order. -/
def contributions {α : Type} (root : Node) (files : List SourceFile)
    (part : SourceFile → Text → List α) : List α :=
  files.flatMap fun f =>
    match f.read root with
    | some text => part f text
    | none => []

/-- The parts of all texts are the contributions of the files. -/
theorem flatMap_texts {α : Type} (root : Node) (files : List SourceFile)
    (part : SourceFile → Text → List α) :
    (texts root files).flatMap (fun item => part item.1 item.2)
      = contributions root files part := by
  induction files with
  | nil => rfl
  | cons f rest ih =>
      unfold contributions at ih ⊢
      unfold texts at ih ⊢
      rw [List.flatMap_cons, ← ih, List.filterMap_cons]
      cases f.read root with
      | some text => rfl
      | none => rfl

/-- The types that a text declares, at their lines of the file. -/
def declaredTypes (l : Language) (f : SourceFile) (text : Text) :
    List (Text × Location) :=
  (declarations l text).map fun item => (item.1, ⟨f.path, item.2⟩)

/-- The entry points that some strategies find, in order: strategy by
strategy, each in the files that it accepts and that can be opened. Scanning
such a file gives its entries (`Route.Strategy.scan_eq_ok`). -/
def scanned (root : Node) (strategies : List Route.Strategy) (survey : Survey) :
    List EntryPoint :=
  strategies.flatMap fun s =>
    contributions root ((survey.enumerate root (strategyFilter s)).1.filter
      (s.accepts ·)) s.entries

/-- What is scanned is scanned text by text. -/
theorem scanned_eq_flatMap (root : Node) (strategies : List Route.Strategy)
    (survey : Survey) :
    scanned root strategies survey = strategies.flatMap fun s =>
      (strategyTexts root survey s).flatMap fun item =>
        s.entries item.1 item.2 := by
  unfold scanned
  simp only [← flatMap_texts]
  rfl

/-- The types of a run are one pass over all that its files declare. -/
theorem types_eq_onePass (root : Node) (l : Language) (survey : Survey) :
    (types root (some l) survey).1
      = TypeMap.accumulator.onePass
          (contributions root (survey.enumerate root (typeFilter l)).1
            (declaredTypes l)) := by
  have hfile : ∀ item : SourceFile × Text, fileTypes l item.1 item.2
      = TypeMap.accumulator.onePass (declaredTypes l item.1 item.2) := by
    intro item
    unfold Accumulator.onePass declaredTypes
    rw [List.foldl_map]
    rfl
  show (texts root (survey.enumerate root (typeFilter l)).1).foldl
    (fun m item => TypeMap.merge m (fileTypes l item.1 item.2)) TypeMap.empty
    = _
  simp only [hfile]
  rw [← flatMap_texts]
  exact TypeMap.mapReduces.foldl_merge _ _

/-- The entry points of a run are one pass over all that its strategies
find. -/
theorem exists_entryPoints_eq_onePass (root : Node)
    (strategies : List Route.Strategy) (survey : Survey) :
    ∃ after, entryPoints root strategies survey
      = .ok (EntryPointMap.accumulator.onePass (scanned root strategies survey),
        after) := by
  obtain ⟨after, h⟩ := exists_entryPoints_eq_ok root strategies survey
  -- one source for each file of each strategy: what is found there
  have hsources : strategies.flatMap (strategyEntries root survey)
    = (strategies.flatMap fun s => (strategyTexts root survey s).map fun item =>
          (item.1, s.entries item.1 item.2)).map fun source =>
            (source.1, EntryPointMap.ofList source.2) := by
    rw [List.map_flatMap]
    simp only [List.map_map]
    rfl
  have hfold : mergeEntries (strategies.flatMap (strategyEntries root survey))
      = EntryPointMap.accumulator.onePass (scanned root strategies survey) := by
    unfold mergeEntries
    rw [hsources, List.foldl_map]
    refine (EntryPointMap.mapReduces.foldl_merge _
      fun source : SourceFile × List EntryPoint => source.2).trans ?_
    rw [List.flatMap_assoc, scanned_eq_flatMap]
    simp only [List.flatMap_map]
  exact ⟨after, by rw [h, hfold]⟩

-- ================================================================= the policy

/-- A file can be opened and declares the type. -/
def DeclaresType (root : Node) (l : Language) (name : Text) (f : SourceFile) :
    Prop :=
  ∃ text line, f.read root = some text ∧ (name, line) ∈ occurrences l text

/-- Where a type stands if several declarations collide: in the last of the
files that declare it, on the line of its first declaration there. -/
def TypeStandsAt (root : Node) (l : Language) (files : List SourceFile)
    (name : Text) (location : Location) : Prop :=
  ∃ f text line, IsLast (DeclaresType root l name) files f
    ∧ f.read root = some text ∧ FirstDeclared l text name line
    ∧ location = ⟨f.path, line⟩

/-- Where a file that can be opened declares a type first. -/
def typeIn (root : Node) (l : Language) (name : Text) (f : SourceFile) :
    Option Location :=
  (f.read root).bind fun text =>
    ((occurrences l text).lookup name).map fun line : Nat => ⟨f.path, line⟩

/-- The type that a file gives is its first declaration of the name. -/
theorem typeIn_eq_some_iff {l : Language} {name : Text} {f : SourceFile}
    {location : Location} :
    typeIn root l name f = some location ↔
      ∃ text line, f.read root = some text ∧ FirstDeclared l text name line
        ∧ location = ⟨f.path, line⟩ := by
  unfold typeIn
  rw [Option.bind_eq_some_iff]
  simp only [firstDeclared_iff, Option.map_eq_some_iff, eq_comm (a := location),
    exists_and_left]

/-- A file gives a type exactly if it declares it. -/
theorem typeIn_ne_none_iff {l : Language} {name : Text} {f : SourceFile} :
    typeIn root l name f ≠ none ↔ DeclaresType root l name f := by
  unfold typeIn DeclaresType
  cases f.read root with
  | none => simp
  | some text =>
      rw [Option.bind_some, Ne, Option.map_eq_none_iff,
        lookup_occurrences_eq_none_iff]
      simp

/-- Looking up a type searches the files from the back. -/
theorem get?_types (root : Node) (l : Language) (survey : Survey)
    (name : Text) :
    (types root (some l) survey).1.locations.get? name
      = (survey.enumerate root (typeFilter l)).1.reverse.findSome?
        (typeIn root l name) := by
  rw [types_eq_onePass, TypeMap.onePass_eq, Table.get?_collect_last,
    Table.get?_empty, Option.or_none]
  unfold contributions
  rw [List.reverse_flatMap, lookup_flatMap]
  -- left is one file, whose declarations are searched from the back too
  congr 1
  funext f
  unfold typeIn
  rw [Function.comp_apply]
  cases f.read root with
  | none => rfl
  | some text =>
      show ((declarations l text).map fun item =>
        (item.1, Location.mk f.path item.2)).reverse.lookup name = _
      rw [← List.map_reverse,
        lookup_map_snd (f := fun line : Nat => Location.mk f.path line)]
      unfold declarations
      rw [lookup_reverse_firstPerName]
      rfl

/-- Looking up a key searches the entry points from the back. -/
theorem get?_onePass (entries : List EntryPoint) (key : Text) :
    (EntryPointMap.accumulator.onePass entries).locations.get? key
      = entries.reverse.findSome? fun e => if e.key = key then some e.location
        else none := by
  rw [EntryPointMap.onePass_eq, Table.get?_collect_last, Table.get?_empty,
    Option.or_none, ← List.map_reverse, List.lookup_eq_findSome?,
    List.findSome?_map]
  congr 1
  funext e
  simp only [Function.comp_apply, beq_iff_eq, eq_comm (a := key)]

/-- A type stands where the last of its files declares it first. -/
theorem get?_types_eq_some_iff {l : Language} {name : Text}
    {location : Location} :
    (types root (some l) survey).1.locations.get? name = some location
      ↔ TypeStandsAt root l (survey.enumerate root (typeFilter l)).1 name
        location := by
  rw [get?_types, findSome?_reverse_eq_some_iff]
  constructor
  · intro h
    obtain ⟨f, hlast, hf⟩ := h
    obtain ⟨text, line, hread, hfirst, hat⟩ := typeIn_eq_some_iff.mp hf
    exact ⟨f, text, line, (isLast_congr fun _ => typeIn_ne_none_iff).mp hlast,
      hread, hfirst, hat⟩
  · intro h
    obtain ⟨f, text, line, hlast, hread, hfirst, hat⟩ := h
    exact ⟨f, (isLast_congr fun _ => typeIn_ne_none_iff).mpr hlast,
      typeIn_eq_some_iff.mpr ⟨text, line, hread, hfirst, hat⟩⟩

/-- A type stands nowhere if no file declares it. -/
theorem get?_types_eq_none_iff {l : Language} {name : Text} :
    (types root (some l) survey).1.locations.get? name = none
      ↔ ∀ f ∈ (survey.enumerate root (typeFilter l)).1,
        ¬ DeclaresType root l name f := by
  rw [get?_types, List.findSome?_eq_none_iff]
  simp only [List.mem_reverse, ← typeIn_ne_none_iff, Decidable.not_not]

/-- An entry point stands where the last of its key does. -/
theorem get?_onePass_eq_some_iff {entries : List EntryPoint} {key : Text}
    {location : Location} :
    (EntryPointMap.accumulator.onePass entries).locations.get? key
      = some location
      ↔ ∃ e, IsLast (fun e => e.key = key) entries e
        ∧ e.location = location := by
  have hkey : ∀ e : EntryPoint,
      (if e.key = key then some e.location else none) ≠ none ↔ e.key = key := by
    intro e
    split
    · next h => simp [h]
    · next h => simp [h]
  rw [get?_onePass, findSome?_reverse_eq_some_iff]
  simp only [isLast_congr hkey]
  constructor
  · intro h
    obtain ⟨e, hlast, he⟩ := h
    exact ⟨e, hlast, Option.some.inj (Option.ite_none_right_eq_some.mp he).2⟩
  · intro h
    obtain ⟨e, hlast, he⟩ := h
    exact ⟨e, hlast, Option.ite_none_right_eq_some.mpr
      ⟨hlast.holds, congrArg some he⟩⟩

-- ================================================================ the theorem

/-- For every tree and every survey of it: a type stands in the last file that
declares it and there at its first declaration; finding entry points succeeds,
and a key stands for the last entry point that has it; what is declared nowhere
is absent. The results depend on nothing but the files that can be opened, in
order and with their texts: two projects that agree on those have the same
types and entry points, whatever else is listed. -/
theorem last_declaration_wins (root : Node) (survey : Survey) :
    (∀ l name location,
        (types root (some l) survey).1.locations.get? name = some location
          ↔ TypeStandsAt root l (survey.enumerate root (typeFilter l)).1
            name location)
      ∧ (∀ l name, (types root (some l) survey).1.locations.get? name = none
          ↔ ∀ f ∈ (survey.enumerate root (typeFilter l)).1,
            ¬ DeclaresType root l name f)
      ∧ (types root none survey).1 = .empty
      ∧ (∀ strategies, ∃ found after,
        entryPoints root strategies survey = .ok (found, after)
          ∧ (∀ key location, found.locations.get? key = some location
              ↔ ∃ e, IsLast (fun e => e.key = key)
                (scanned root strategies survey) e
                ∧ e.location = location)
          ∧ (∀ key, found.locations.get? key = none
              ↔ ∀ e ∈ scanned root strategies survey, e.key ≠ key))
      ∧ (∀ root' other l,
          texts root (survey.enumerate root (typeFilter l)).1
              = texts root' (Survey.enumerate other root' (typeFilter l)).1 →
            (types root (some l) survey).1 = (types root' (some l) other).1)
      ∧ (∀ root' other strategies,
          (∀ s ∈ strategies, strategyTexts root survey s
            = strategyTexts root' other s) →
            ∃ found after after',
              entryPoints root strategies survey = .ok (found, after)
              ∧ entryPoints root' strategies other = .ok (found, after')) := by
  refine ⟨?_, ?_, rfl, ?_, ?_, ?_⟩
  · intro l name location
    exact get?_types_eq_some_iff
  · intro l name
    exact get?_types_eq_none_iff
  · intro strategies
    obtain ⟨after, h⟩ := exists_entryPoints_eq_onePass root strategies survey
    refine ⟨_, after, h, ?_, ?_⟩
    · intro key location
      exact get?_onePass_eq_some_iff
    · intro key
      rw [get?_onePass, List.findSome?_eq_none_iff]
      simp
  · intro root' other l h
    rw [types_eq_onePass, types_eq_onePass, ← flatMap_texts, ← flatMap_texts, h]
  · intro root' other strategies h
    -- A strategy reads its own files, so strategies are compared one by one.
    have hsame : scanned root strategies survey
        = scanned root' strategies other := by
      rw [scanned_eq_flatMap, scanned_eq_flatMap, List.flatMap_def,
        List.flatMap_def]
      exact congrArg List.flatten
        (List.map_congr_left fun s hs => by rw [h s hs])
    obtain ⟨after, hfound⟩ :=
      exists_entryPoints_eq_onePass root strategies survey
    obtain ⟨after', hfound'⟩ :=
      exists_entryPoints_eq_onePass root' strategies other
    rw [← hsame] at hfound'
    exact ⟨_, after, after', hfound, hfound'⟩

/-- Three Go files that declare the same type and the same route, the second
one twice; the third cannot be opened. -/
def collidingTree : Node :=
  .directory
    [("a.go".toList,
      .file (Utf8.encode "type T int\nr.GET(\"/x\", f)".toList) true),
     ("b.go".toList,
      .file (Utf8.encode ("\ntype T int\nr.GET(\"/x\", f)".toList
        ++ "\ntype T int\nr.GET(\"/x\", f)".toList)) true),
     ("c.go".toList,
      .file (Utf8.encode "type T int\nr.GET(\"/x\", f)".toList) false)]

/-- The type stands at its first declaration in the second file, the route at
its last one there. -/
theorem last_declaration_wins_colliding :
    TypeStandsAt collidingTree .go
        (Survey.enumerate ⟨.base [] [], []⟩ collidingTree (typeFilter .go)).1
        ['T'] ⟨"b.go".toList, 2⟩
      ∧ ∃ e, IsLast (fun e => e.key = "GET /x".toList)
          (scanned collidingTree [.goCall] ⟨.base [] [], []⟩) e
        ∧ e.location = ⟨"b.go".toList, 5⟩ := by
  obtain ⟨htypes, -, -, hentries, -⟩ :=
    last_declaration_wins collidingTree ⟨.base [] [], []⟩
  refine ⟨(htypes _ _ _).mp (by decide +kernel), ?_⟩
  obtain ⟨found, after, hfound, hwins, -⟩ := hentries [.goCall]
  refine (hwins _ _).mp ?_
  have heval :
      (entryPoints collidingTree [.goCall] ⟨.base [] [], []⟩).toOption.bind
        (fun result => result.1.locations.get? "GET /x".toList)
        = some ⟨"b.go".toList, 5⟩ := by
    decide +kernel
  rw [hfound] at heval
  exact heval

end Extract

end SourceAtlas
