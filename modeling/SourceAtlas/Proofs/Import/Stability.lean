/-
A new file changes the resolution of an import only by becoming its answer,
and removing a file changes it only where the file was the answer. A resolver
asks the tree for one candidate after the other, so what has to be shown is
that each question has its old answer or the new file for an answer
(`findSome?_eq_or`); nested searches add nothing to that.

The one thing besides candidates that depends on the tree is whether modules
are also looked up below `src`. A tree that has no such directory and gains
one has nothing in it but the new file, and a module path cannot climb out of
it (`components_of_sourceCandidate`).
-/
import SourceAtlas.Proofs.Import.Containment
import SourceAtlas.Proofs.Tree.Growth

namespace SourceAtlas.Import

open Node (Gains)

variable {tree after : Node} {new : Text} {f : SourceFile} {specifier : Text}

-- ============================================================= searches

private theorem findSome?_eq_or {α β : Type} {items : List α}
    {ask ask' : α → Option β} {b : β}
    (h : ∀ item ∈ items, ask' item = ask item ∨ ask' item = some b) :
    items.findSome? ask' = items.findSome? ask
      ∨ items.findSome? ask' = some b := by
  induction items with
  | nil => exact .inl rfl
  | cons item rest ih =>
      rw [List.findSome?_cons, List.findSome?_cons]
      rcases h item List.mem_cons_self with hsame | hnew
      · rw [hsame]
        cases ask item with
        | some answer => exact .inl rfl
        | none =>
            exact ih fun other hother =>
              h other (List.mem_cons_of_mem item hother)
      · rw [hnew]
        exact .inr rfl

/-- A new file is the only new answer among candidates. -/
theorem firstExisting_of_gains (h : Gains tree (Path.components new) after)
    (candidates : List Text) :
    firstExisting after candidates = firstExisting tree candidates
      ∨ firstExisting after candidates = some new := by
  apply findSome?_eq_or
  intro candidate _
  cases hclean : Path.clean? candidate with
  | none => exact .inl rfl
  | some path =>
      by_cases hpath : Path.components path = Path.components new
      · have hnew : path = new := by
          rw [← Path.join_components path, hpath, Path.join_components]
        right
        rw [Option.filter_some, hpath, h.file, hnew]
        rfl
      · left
        rw [Option.filter_some, Option.filter_some, h.fileAt_eq hpath]

theorem findSome?_firstExisting_of_gains
    (h : Gains tree (Path.components new) after) {α : Type} (items : List α)
    (tried : α → List Text) :
    (items.findSome? fun item => firstExisting after (tried item))
        = (items.findSome? fun item => firstExisting tree (tried item))
      ∨ (items.findSome? fun item => firstExisting after (tried item))
        = some new :=
  findSome?_eq_or fun item _ => firstExisting_of_gains h (tried item)

-- ======================================================= below the sources

/-- The path of a module holds no dot. -/
theorem count_modulePath (name : Text) : (modulePath name).count '.' = 0 := by
  rw [List.count_eq_zero]
  intro hmem
  obtain ⟨c, -, hc⟩ := List.mem_flatMap.mp hmem
  split at hc
  case isTrue => simp at hc
  case isFalse hne => exact hne (List.mem_singleton.mp hc).symm

/-- A candidate for a module below `src` holds one dot, in its extension, so
it does not climb. -/
theorem components_of_sourceCandidate {name candidate path : Text}
    (hcandidate : candidate ∈ moduleFiles ("src/".toList ++ modulePath name))
    (h : Path.clean? candidate = some path) :
    ∃ more, Path.components path = "src".toList :: more := by
  obtain ⟨rest, hrest, hdots⟩ : ∃ rest, candidate = "src".toList ++ '/' :: rest
      ∧ rest.count '.' = 1 := by
    simp only [moduleFiles, List.mem_cons, List.not_mem_nil, or_false]
      at hcandidate
    rcases hcandidate with rfl | rfl
    · refine ⟨modulePath name ++ ".py".toList, by simp, ?_⟩
      rw [List.count_append, count_modulePath]
      rfl
    · refine ⟨modulePath name ++ "/__init__.py".toList, by simp, ?_⟩
      rw [List.count_append, count_modulePath]
      rfl
  have hclimb : ['.', '.'] ∉ Path.components candidate := by
    intro hmem
    have hle := (Text.isInfix_of_mem_split hmem).sublist.count_le '.'
    simp [hrest, hdots] at hle
  have hparts : Path.components candidate
      = "src".toList :: Path.components rest := by
    rw [hrest]
    exact Text.split_append_cons '/' "src".toList rest
  refine ⟨(Path.components rest).filter fun part => part != [] && part != ['.'],
    ?_⟩
  rw [Path.components_of_clean?_of_not_climbing h hclimb, hparts,
    List.filter_cons]
  rfl

/-- A tree that gains its source directory has the new file in it and nothing
else. -/
theorem eq_new_of_firstExisting (h : Gains tree (Path.components new) after)
    (hbefore : tree.directoryAt ["src".toList] = false)
    (hafter : after.directoryAt ["src".toList] = true) {name t : Text}
    (ht : firstExisting after (moduleFiles ("src/".toList ++ modulePath name))
      = some t) : t = new := by
  have hfile := (namesFile_of_firstExisting ht).file
  obtain ⟨candidate, hcandidate, hclean⟩ := List.exists_of_findSome?_eq_some ht
  obtain ⟨hclean, -⟩ := Option.filter_eq_some_iff.mp hclean
  obtain ⟨more, hparts⟩ := components_of_sourceCandidate hcandidate hclean
  by_cases hnew : Path.components t = Path.components new
  · rw [← Path.join_components t, hnew, Path.join_components]
  · exfalso
    rw [h.fileAt_eq hnew, hparts] at hfile
    obtain ⟨content, readable, hkind⟩ := Node.fileAt_iff_kindAt.mp hfile
    cases more with
    | nil =>
        -- the directory is no file
        rw [Node.directoryAt_iff_kindAt] at hafter
        rcases h.elsewhere _ (hparts ▸ hnew) with hsame | ⟨hnone, -⟩
        · rw [hsame, hkind] at hafter
          cases hafter
        · rw [hkind] at hnone
          cases hnone
    | cons next below =>
        -- a file below the directory was there before, and so was the directory
        have hbelow : tree.kindAt (["src".toList] ++ next :: below) ≠ none := by
          rw [List.singleton_append, hkind]
          exact nofun
        have hdir := Node.kindAt_of_kindAt_append_cons hbelow
        rw [← Node.directoryAt_iff_kindAt, hbefore] at hdir
        cases hdir

-- ======================================================== each resolver

/-- Script imports gain no other answer than the new file. -/
theorem resolveScript_of_gains (h : Gains tree (Path.components new) after)
    (aliases : List Alias) :
    resolveScript after aliases f specifier
      = resolveScript tree aliases f specifier
      ∨ resolveScript after aliases f specifier = some new :=
  findSome?_firstExisting_of_gains h _ candidates

theorem resolveRelative_of_gains (h : Gains tree (Path.components new) after) :
    resolveRelative after f specifier = resolveRelative tree f specifier
      ∨ resolveRelative after f specifier = some new := by
  simp only [resolveRelative]
  split
  case h_1 => exact .inl rfl
  case h_2 =>
    split
    · exact firstExisting_of_gains h _
    · exact firstExisting_of_gains h _

theorem resolvePython_of_gains (h : Gains tree (Path.components new) after) :
    resolvePython after f specifier = resolvePython tree f specifier
      ∨ resolvePython after f specifier = some new := by
  unfold resolvePython
  split
  case isTrue => exact resolveRelative_of_gains h
  case isFalse =>
    have hsame := findSome?_firstExisting_of_gains h (pythonRoots tree)
      fun top => moduleFiles (top ++ modulePath specifier)
    cases hbefore : tree.directoryAt ["src".toList] with
    | true =>
        have hroots : pythonRoots after = pythonRoots tree := by
          unfold pythonRoots
          rw [hbefore, h.directoryAt_of_directoryAt hbefore]
        rw [hroots]
        exact hsame
    | false =>
        cases hafter : after.directoryAt ["src".toList] with
        | false =>
            have hroots : pythonRoots after = pythonRoots tree := by
              unfold pythonRoots
              rw [hbefore, hafter]
            rw [hroots]
            exact hsame
        | true =>
            -- modules are looked up below `src` once nothing else has an answer
            have hroots : pythonRoots after
                = pythonRoots tree ++ ["src/".toList] := by
              unfold pythonRoots
              rw [hbefore, hafter]
              rfl
            rw [hroots, List.findSome?_append]
            rcases hsame with hsame | hnew
            · rw [hsame]
              cases hold : (pythonRoots tree).findSome? fun top =>
                  firstExisting tree (moduleFiles
                    (top ++ modulePath specifier)) with
              | some t => exact .inl rfl
              | none =>
                  rw [Option.none_or, List.findSome?_singleton]
                  cases ht : firstExisting after
                      (moduleFiles ("src/".toList ++ modulePath specifier)) with
                  | none => exact .inl rfl
                  | some t =>
                      right
                      rw [eq_new_of_firstExisting h hbefore hafter ht]
            · rw [hnew]
              exact .inr rfl

theorem resolveRust_of_gains (h : Gains tree (Path.components new) after) :
    resolveRust after f specifier = resolveRust tree f specifier
      ∨ resolveRust after f specifier = some new := by
  unfold resolveRust
  split
  case h_1 => exact .inl rfl
  case h_2 => exact findSome?_firstExisting_of_gains h _ _

-- ======================================================== all resolvers

namespace Resolver

theorem resolve_of_gains {r : Resolver} (hr : r.language ≠ .go)
    (h : Gains tree (Path.components new) after) :
    r.resolve after f specifier = r.resolve tree f specifier
      ∨ r.resolve after f specifier = some new := by
  cases r with
  | script aliases => exact resolveScript_of_gains h aliases
  | python => exact resolvePython_of_gains h
  | go moduleName => exact absurd rfl hr
  | rust => exact resolveRust_of_gains h

/-- Imports of scripts, of Python and of Rust, with the aliases as they are:
in a tree that takes a new file at a clean path, every import has its old
answer or the new file, and once a file is removed, every import that was not
answered by it has its old answer. -/
theorem new_file_is_the_only_new_answer (r : Resolver) (hr : r.language ≠ .go)
    (tree : Node) (hnew : Path.IsClean new) (f : SourceFile)
    (specifier : Text) :
    (∀ content readable after, tree.find? (Path.components new) = none →
      tree.writeFile (Path.components new) (.file content readable)
        = .ok after →
      r.resolve after f specifier = r.resolve tree f specifier
        ∨ r.resolve after f specifier = some new)
    ∧ ∀ after, tree.fileAt (Path.components new) = true →
      tree.remove (Path.components new) = .ok after →
      r.resolve after f specifier = r.resolve tree f specifier
        ∨ r.resolve tree f specifier = some new := by
  have hup : Node.upward ∉ Path.components new :=
    fun hmem => (hnew.ordinary _ hmem).2.2 rfl
  constructor
  · intro content readable after hfree hwritten
    exact resolve_of_gains hr (Node.gains_of_writeFile hup hfree hwritten)
  · intro after hfile hremoved
    have hne := Text.split_ne_nil '/' new
    rcases resolve_of_gains hr
      (Node.gains_of_remove hne hup hfile hremoved) with hsame | hanswer
    · exact .inl hsame.symm
    · exact .inr hanswer

/-- A package without a source directory. -/
def sparseProject : Node :=
  .directory [("main.py".toList, .file [] true),
    ("pkg".toList, .directory [("a.py".toList, .file [] true)])]

/-- A module in a directory that makes it a source directory is found there,
the one that was found before still is, and removing it leaves that one. -/
theorem new_file_is_the_only_new_answer_src :
    ∃ after, sparseProject.writeFile (Path.components "src/pkg/b.py".toList)
      (.file [] true)
        = .ok after
      ∧ python.resolve sparseProject (.ofPath "main.py".toList) "pkg.b".toList
        = none
      ∧ python.resolve after (.ofPath "main.py".toList) "pkg.b".toList
        = some "src/pkg/b.py".toList
      ∧ (python.resolve after (.ofPath "main.py".toList) "pkg.a".toList
          = python.resolve sparseProject (.ofPath "main.py".toList)
            "pkg.a".toList
        ∨ python.resolve after (.ofPath "main.py".toList) "pkg.a".toList
          = some "src/pkg/b.py".toList)
      ∧ ∃ left, after.remove (Path.components "src/pkg/b.py".toList) = .ok left
        ∧ (python.resolve left (.ofPath "main.py".toList) "pkg.a".toList
            = python.resolve after (.ofPath "main.py".toList) "pkg.a".toList
          ∨ python.resolve after (.ofPath "main.py".toList) "pkg.a".toList
            = some "src/pkg/b.py".toList) := by
  have hclean : Path.IsClean "src/pkg/b.py".toList :=
    ⟨by decide, by decide, by decide⟩
  have hpython : python.language ≠ .go := by decide
  refine ⟨_, rfl, by decide, by decide, ?_, _, rfl, ?_⟩
  · exact (new_file_is_the_only_new_answer python hpython sparseProject hclean _
      _).1 _ _ _ rfl rfl
  · exact (new_file_is_the_only_new_answer python hpython _ hclean _ _).2 _ rfl
      rfl

end Resolver

end SourceAtlas.Import
