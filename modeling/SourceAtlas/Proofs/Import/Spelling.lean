/-
The spelling of a base does not matter for script imports. Candidates are made
from the raw text of the base, by putting extensions and index files behind it
or by exchanging its extension, and are put in clean form one by one
afterwards. All of this happens at the last component: the candidates of a
base are those of its last name, each behind the directory part of the base
(`candidates_front_append`). Behind a directory only the place counts that the
directory leads to (`Path.IsFront.clean?_append`), and two bases with the same
last name and the same clean form have directories that lead to one place.

Bases that end in no name are left out for a reason: with an extension behind
it, a closing `..` is a name and goes nowhere else.
-/
import Mathlib.Data.List.Forall2
import SourceAtlas.Import.Resolve
import SourceAtlas.Proofs.Path.Walk

namespace SourceAtlas

variable {front name : Text}

-- =========================================================== extensions

namespace Path

/-- The extension is that of the last component. -/
theorem IsFront.splitExtension_append (h : IsFront front) (hname : '/' ∉ name) :
    splitExtension (front ++ name)
      = (front ++ (splitExtension name).1, (splitExtension name).2) := by
  have hbase : base name = name := IsFront.base_append (.inl rfl) hname
  simp only [splitExtension, h.base_append hname, hbase]
  split
  case h_1 stem ext hcut =>
    obtain ⟨hsplit, -⟩ := Text.eq_append_of_cutLast? hcut
    split
    case isTrue =>
      have hlength : (front ++ name).length - (ext.length + 1)
          = front.length + (name.length - (ext.length + 1)) := by
        have hname := congrArg List.length hsplit
        rw [List.length_append, List.length_cons] at hname
        rw [List.length_append]
        omega
      rw [hlength, List.take_length_add_append]
    case isFalse => rfl
  case h_2 => rfl

end Path

namespace Import

open SourceAtlas.Path (IsClean IsFront IsName)

-- ========================================================== candidates

/-- The candidates of a base are those of its last component, behind what
precedes it. -/
theorem candidates_front_append (h : IsFront front) (hname : '/' ∉ name) :
    candidates (front ++ name) = (candidates name).map (front ++ ·) := by
  unfold candidates
  rw [h.splitExtension_append hname]
  simp only
  split
  case isTrue => simp [Function.comp_def]
  case isFalse => simp [Function.comp_def]

/-- A name with an extension is a name, whatever it was before. -/
theorem isName_append_extension {ext : Text} (hslash : '/' ∉ name)
    (hext : ext ∈ triedExtensions) : IsName (name ++ ext) := by
  have hexts : ∀ ext ∈ triedExtensions, 2 < ext.length ∧ '/' ∉ ext := by decide
  obtain ⟨hlong, hext⟩ := hexts ext hext
  apply Path.isName_of_length
  · rw [List.length_append]
    omega
  · rw [List.mem_append]
    exact not_or.mpr ⟨hslash, hext⟩

/-- The candidates of a name are clean paths. -/
theorem isClean_of_mem_candidates (h : IsName name) {t : Text}
    (ht : t ∈ candidates name) : IsClean t := by
  have hslash := h.slash_not_mem
  simp only [candidates, List.mem_append, List.mem_cons, List.mem_map] at ht
  rcases ht with ((rfl | ⟨ext, hext, rfl⟩) | ⟨ext, hext, rfl⟩) | ht
  · exact h.isClean
  · exact (isName_append_extension hslash hext).isClean
  · have hindex : IsName ("index".toList ++ ext) :=
      isName_append_extension (by decide) hext
    have hjoin : name ++ "/index".toList ++ ext
        = Text.join ['/'] [name, "index".toList ++ ext] := by simp [Text.join]
    rw [hjoin]
    exact Path.isClean_join (by simp) (by simpa using ⟨h, hindex⟩)
  · split at ht
    case isTrue =>
      obtain ⟨ext, hext, rfl⟩ := List.mem_map.mp ht
      have htyped :
          ∀ ext ∈ Language.typedExtensions, ext ∈ triedExtensions := by decide
      have hstem : '/' ∉ (Path.splitExtension name).1 := fun hmem =>
        hslash ((Path.isPrefix_splitExtension_fst name).subset hmem)
      exact (isName_append_extension hstem (htyped ext hext)).isClean
    case isFalse => cases ht

/-- The clean forms of the candidates depend on the last name of a base and on
the place that its directory leads to. -/
theorem map_clean?_candidates (h : IsFront front) (hname : IsName name) :
    (candidates (front ++ name)).map Path.clean?
      = (candidates name).map fun t => (Path.reached? front).map fun stack =>
          Text.join ['/'] (stack.reverse ++ Path.components t) := by
  rw [candidates_front_append h hname.slash_not_mem, List.map_map]
  refine List.map_congr_left fun t ht => ?_
  exact h.clean?_append (isClean_of_mem_candidates hname ht)

-- ===================================================== spellings of a base

/-- Two bases with the same ordinary last name that have the same clean form,
or none. -/
structure SamePlace (b c : Text) : Prop where
  base_eq : Path.base b = Path.base c
  ordinary : Path.base b ≠ [] ∧ Path.base b ≠ ['.'] ∧ Path.base b ≠ ['.', '.']
  clean_eq : Path.clean? b = Path.clean? c

/-- Two spellings of a place have the same candidates, up to their clean
form. -/
theorem SamePlace.map_clean?_eq {b c : Text} (h : SamePlace b c) :
    (candidates b).map Path.clean? = (candidates c).map Path.clean? := by
  obtain ⟨hbase, ⟨hnil, hdot, hup⟩, hclean⟩ := h
  obtain ⟨front, hfront, hb⟩ := Path.exists_front b
  obtain ⟨front', hfront', hc⟩ := Path.exists_front c
  have hname : IsName (Path.base b) :=
    ⟨hnil, hdot, hup, Path.slash_not_mem_base b⟩
  rw [← hbase] at hc
  generalize Path.base b = name at hb hc hname
  subst hb hc
  have hreached :=
    Path.reached?_eq_of_clean?_eq hfront hfront' hname.isClean hclean
  rw [map_clean?_candidates hfront hname,
    map_clean?_candidates hfront' hname, hreached]

/-- The first existing candidate depends on clean forms only. -/
theorem firstExisting_congr (root : Node) {tried tried' : List Text}
    (h : tried.map Path.clean? = tried'.map Path.clean?) :
    firstExisting root tried = firstExisting root tried' := by
  have hforms (paths : List Text) : firstExisting root paths
      = (paths.map Path.clean?).findSome? fun form =>
          form.filter fun path => root.fileAt (Path.components path) := by
    rw [List.findSome?_map]
    rfl
  rw [hforms, hforms, h]

/-- Two spellings of several places find the same file. -/
theorem findSome?_of_forall₂ (root : Node) {tried tried' : List Text}
    (h : List.Forall₂ SamePlace tried tried') :
    (tried.findSome? fun base => firstExisting root (candidates base))
      = tried'.findSome? fun base => firstExisting root (candidates base) := by
  induction h with
  | nil => rfl
  | cons hsame _ ih =>
      rw [List.findSome?_cons, List.findSome?_cons, ih,
        firstExisting_congr root hsame.map_clean?_eq]

/-- A base that goes above the root. If it ends in `..`, it has gone there
before: an extension behind the `..` would make a name of it. -/
structure GoesAbove (b : Text) : Prop where
  climbs : Path.walk? [] (Path.components b) = none
  before : Path.base b = ['.', '.']
    → Path.walk? [] (Path.components b).dropLast = none

/-- No candidate of a base that goes above the root is inside. -/
theorem GoesAbove.clean?_eq_none {b t : Text} (h : GoesAbove b)
    (ht : t ∈ candidates b) : Path.clean? t = none := by
  obtain ⟨hclimb, hbefore⟩ := h
  obtain ⟨front, hfront, hb⟩ := Path.exists_front b
  have hslash := Path.slash_not_mem_base b
  generalize Path.base b = name at hb hbefore hslash
  subst hb
  rw [candidates_front_append hfront hslash] at ht
  obtain ⟨tail, -, rfl⟩ := List.mem_map.mp ht
  refine hfront.clean?_append_of_climbing ?_ tail
  rw [hfront.walk?_dropLast hslash] at hbefore
  rw [hfront.walk?_append] at hclimb
  cases hreached : Path.walk? [] (Path.components front) with
  | none => rfl
  | some stack =>
      -- the last component would be the one that goes above
      have hone : Path.components name = [name] := Text.split_of_not_mem hslash
      rw [hreached, Option.bind_some, hone, Path.walk?_cons] at hclimb
      cases hstep : Path.step? stack name with
      | none =>
          have hnone := hbefore (Path.step?_eq_none_iff.mp hstep).1
          rw [hreached] at hnone
          cases hnone
      | some next =>
          rw [hstep] at hclimb
          cases hclimb

/-- No file is found above the root. -/
theorem GoesAbove.firstExisting_eq_none {b : Text} (h : GoesAbove b)
    (root : Node) : firstExisting root (candidates b) = none := by
  refine List.findSome?_eq_none_iff.mpr fun t ht => ?_
  rw [h.clean?_eq_none ht]
  rfl

/-- The spelling of a base does not matter. Two bases with the same ordinary
last name and the same clean form, or none, have candidates with the same clean
forms, so specifiers that lead to such bases have the same answer in every
tree. A base that goes above the root has no answer, even if it comes back, and
neither has a specifier that leads to such bases only. -/
theorem Resolver.spelling_does_not_matter :
    (∀ b c, SamePlace b c
      → (candidates b).map Path.clean? = (candidates c).map Path.clean?)
    ∧ (∀ root aliases aliases' f f' specifier specifier',
        List.Forall₂ SamePlace (bases aliases f specifier)
          (bases aliases' f' specifier') →
        (script aliases).resolve root f specifier
          = (script aliases').resolve root f' specifier')
    ∧ (∀ root b, GoesAbove b → firstExisting root (candidates b) = none)
    ∧ ∀ root aliases f specifier,
      (∀ b ∈ bases aliases f specifier, GoesAbove b) →
        (script aliases).resolve root f specifier = none := by
  refine ⟨fun b c h => h.map_clean?_eq, ?_,
    fun root b h => h.firstExisting_eq_none root, ?_⟩
  · intro root aliases aliases' f f' specifier specifier' h
    exact findSome?_of_forall₂ root h
  · intro root aliases f specifier h
    exact List.findSome?_eq_none_iff.mpr fun b hb =>
      (h b hb).firstExisting_eq_none root

/-- A typed source that scripts import under its run-time name. -/
def typedTree : Node :=
  .directory [("src".toList, .directory [("b.ts".toList, .file [] true)])]

/-- Three spellings of one import, and one that leaves the project and comes
back. -/
theorem Resolver.spelling_does_not_matter_detour :
    (script []).resolve typedTree (.ofPath "src/main.ts".toList) "./b.js".toList
        = some "src/b.ts".toList
      ∧ (script []).resolve typedTree (.ofPath "src/main.ts".toList)
        "./a/../b.js".toList
        = (script []).resolve typedTree (.ofPath "src/main.ts".toList)
          "./b.js".toList
      ∧ (script []).resolve typedTree (.ofPath "src/main.ts".toList)
        ".//b.js".toList
        = (script []).resolve typedTree (.ofPath "src/main.ts".toList)
          "./b.js".toList
      ∧ (candidates "src/./a/../b.js".toList).map Path.clean?
        = (candidates "src/./b.js".toList).map Path.clean?
      ∧ (script []).resolve typedTree (.ofPath "src/main.ts".toList)
        "../../src/b.js".toList
        = none := by
  have hdetour : SamePlace "src/./a/../b.js".toList "src/./b.js".toList :=
    ⟨by decide, by decide, by decide⟩
  have hdouble : SamePlace "src/.//b.js".toList "src/./b.js".toList :=
    ⟨by decide, by decide, by decide⟩
  have hout : GoesAbove "src/../../src/b.js".toList := ⟨by decide, by decide⟩
  obtain ⟨hforms, hsame, -, hclimb⟩ := spelling_does_not_matter
  refine ⟨by decide, ?_, ?_, hforms _ _ hdetour, ?_⟩
  · exact hsame _ _ _ _ _ _ _ (.cons hdetour .nil)
  · exact hsame _ _ _ _ _ _ _ (.cons hdouble .nil)
  · exact hclimb _ _ _ _ (List.forall_mem_singleton.mpr hout)

end Import

end SourceAtlas
