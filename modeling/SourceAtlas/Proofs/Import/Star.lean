/-
What the star of a compiler configuration stands for. An entry `k*` with a
target `t*` sends `k` followed by a rest to a path made of `t` and that rest.
The alias is made before the rest is known: what precedes the star is joined to
the base and put in normal form, which loses a slash at its end, and the alias
always puts one back.

So the rest always comes behind a slash (`slashed`). Where `t` is empty or ends
in a slash this is the place of the star; where it does not, it is a place
inside the directory `t` and not one that continues its name. Two more cases are
left out (`Fits`): a directory that is the root of the file system, to which a
further slash adds one in front, and a rest that starts with a slash itself.
-/
import SourceAtlas.Proofs.Import.Choice
import SourceAtlas.Proofs.Path.Normal
import SourceAtlas.Proofs.Run.Failures

namespace SourceAtlas.Alias

variable {base key stem rest : Text} {targets : List Json}
  {entries : List (Text × Json)}

-- ============================================================ targets

/-- What precedes the star of a target. -/
def stem? : Json → Option Text
  | .string target =>
      if ['*'].isSuffixOf target then some target.dropLast else none
  | _ => none

/-- What precedes the stars of the targets that have one. -/
def stems (targets : List Json) : List Text := targets.filterMap stem?

/-- The directory that a target names. -/
def directory (base stem : Text) : Text :=
  Path.join base (if stem.isEmpty then ['.'] else stem)

/-- What is put in front of the rest. -/
def lead (base stem : Text) : Text :=
  if Path.normal (directory base stem) = ['.'] then []
  else Path.normal (directory base stem) ++ ['/']

/-- With a slash at its end, unless it is empty. -/
def slashed (stem : Text) : Text :=
  if stem = [] ∨ ['/'] <:+ stem then stem else stem ++ ['/']

/-- A target and a rest that can be put together one after the other: the
directory is not the root of the file system, and a rest that starts with a
slash is not taken for an absolute path on one side only. -/
structure Fits (base stem rest : Text) : Prop where
  oneSlash : Path.normal (directory base stem) ≠ ['/']
  twoSlashes : Path.normal (directory base stem) ≠ ['/', '/']
  slash : rest.head? = some '/'
    → (stem = [] ↔ Path.normal (directory base stem) = ['.'])

-- ============================================================== paths

/-- The directory of a target is not empty. -/
theorem directory_ne_nil (base stem : Text) : directory base stem ≠ [] := by
  obtain ⟨front, hfront⟩ :=
    Path.exists_join_eq base (if stem.isEmpty then ['.'] else stem)
  unfold directory
  rw [hfront]
  cases stem with
  | nil => simp
  | cons c more => simp

/-- Behind a name, and behind a base that is given, the rest follows a slash. -/
theorem exists_sameDirectory
    (h : stem ≠ [] ∨ (base ≠ [] ∧ rest.head? ≠ some '/')) :
    ∃ p, Path.SameDirectory p (directory base stem)
      ∧ Path.join base (slashed stem ++ rest) = p ++ '/' :: rest := by
  by_cases hstem : stem = []
  · subst hstem
    obtain ⟨hbase, hrest⟩ := h.resolve_left (not_not_intro rfl)
    have hrelative : ¬ ['/'].isPrefixOf rest = true := by
      intro hpre
      obtain ⟨more, rfl⟩ := List.isPrefixOf_iff_prefix.mp hpre
      exact hrest rfl
    show ∃ p, Path.SameDirectory p (Path.join base ['.'])
      ∧ Path.join base rest = p ++ '/' :: rest
    unfold Path.join
    rw [if_neg hrelative, if_neg (by decide)]
    by_cases hslash : ['/'].isSuffixOf base = true
    · obtain ⟨p, rfl⟩ := List.isSuffixOf_iff_suffix.mp hslash
      refine ⟨p, ?_, ?_⟩
      · simpa using Path.SameDirectory.dot (p := p)
      · simp
    · refine ⟨base, ?_, ?_⟩
      · simpa [hbase, hslash] using Path.SameDirectory.dot (p := base)
      · simp [hbase, hslash]
  · have hdirectory : directory base stem = Path.join base stem := by
      simp [directory, hstem]
    rw [hdirectory]
    -- A slash at the end of the stem is the one before the rest.
    by_cases hslash : ['/'] <:+ stem
    · obtain ⟨front, hfront⟩ := Path.exists_join_eq base stem
      rw [slashed, if_pos (.inr hslash), Path.join_append hstem, hfront]
      obtain ⟨name, rfl⟩ := hslash
      refine ⟨front ++ name, ?_, by simp⟩
      rw [← List.append_assoc]
      exact .slash
    · rw [slashed, if_neg (by simp [hstem, hslash]), List.append_assoc,
        Path.join_append hstem]
      exact ⟨_, .self, by simp⟩

/-- The rest comes behind the slash that ends the target. -/
theorem normal_lead_append (h : Fits base stem rest) :
    Path.normal (lead base stem ++ rest)
      = Path.normal (Path.join base (slashed stem ++ rest)) := by
  by_cases hroom : stem ≠ [] ∨ (base ≠ [] ∧ rest.head? ≠ some '/')
  · obtain ⟨p, hsame, hjoin⟩ := exists_sameDirectory hroom
    rw [hjoin]
    refine Path.normal_append_of_same hsame (directory_ne_nil base stem)
      h.oneSlash h.twoSlashes ?_
    intro hdot hslash
    have hstem := (h.slash hslash).mpr hdot
    rcases hroom with hne | ⟨-, hrelative⟩
    · exact hne hstem
    · exact hrelative hslash
  · -- with nothing before the star, and an absolute rest or no base, only the
    -- rest is left
    rw [not_or, Classical.not_not] at hroom
    obtain ⟨rfl, hbase⟩ := hroom
    show Path.normal (lead base [] ++ rest) = Path.normal (Path.join base rest)
    by_cases hslash : rest.head? = some '/'
    · have hlead : lead base [] = [] := if_pos ((h.slash hslash).mp rfl)
      obtain ⟨more, rfl⟩ := List.head?_eq_some_iff.mp hslash
      rw [hlead]
      rfl
    · have hbase : base = [] :=
        Classical.byContradiction fun hne => hbase ⟨hne, hslash⟩
      subst hbase
      have hjoin : Path.join [] rest = rest := by simp [Path.join]
      rw [hjoin]
      rfl

-- ============================================================= aliases

/-- Where the base is a text, a target is a text or left out. -/
theorem target?_string (base : Text) (target : Json) :
    target? (.string base) true target
      = .ok ((stem? target).map (lead base)) := by
  cases target with
  | string text =>
      by_cases hstar : ['*'].isSuffixOf text = true
      · simp [target?, stem?, lead, directory, hstar]
      · simp [target?, stem?, hstar]
  | null => rfl
  | bool b => rfl
  | integer n => rfl
  | real r => rfl
  | array items => rfl
  | object members => rfl

/-- An entry with a star gives one alias, with all targets that are texts. -/
theorem ofEntry_star (base : Text) (hkey : key ≠ [])
    (hstems : stems targets ≠ []) :
    ofEntry (.string base) (key ++ ['*']) (.array targets)
      = .ok [⟨key, (stems targets).map (lead base), true⟩] := by
  have hstar : ['*'].isSuffixOf (key ++ ['*']) = true :=
    List.isSuffixOf_iff_suffix.mpr (List.suffix_append _ _)
  have hfound : targets.mapM (target? (.string base) true)
      = .ok (targets.map fun target => (stem? target).map (lead base)) :=
    mapM_eq_ok fun target _ => target?_string base target
  have hkept :
      (targets.map fun target => (stem? target).map (lead base)).filterMap id
        = (stems targets).map (lead base) := by
    rw [List.filterMap_map, stems, List.map_filterMap]
    rfl
  unfold ofEntry
  simp only [hstar, hfound, bind, Except.bind, hkept, if_true,
    List.dropLast_concat]
  simp [hkey, hstems, pure, Except.pure]

theorem exists_ofPaths_star (base : Text) (hkey : key ≠ [])
    (hstems : stems targets ≠ [])
    (hentry : (key ++ ['*'], .array targets) ∈ entries) :
    ∃ aliases, ofPaths (.string base) (.object entries) = .ok aliases
      ∧ ⟨key, (stems targets).map (lead base), true⟩ ∈ aliases := by
  obtain ⟨aliases, h⟩ := exists_ofPaths_eq_ok_iff.mpr (.inl ⟨base, rfl⟩)
  refine ⟨aliases, h, ?_⟩
  obtain ⟨found, hfound, h⟩ := bind_eq_ok_iff.mp h
  injection h with h
  subst h
  obtain ⟨items, hitems, hitem⟩ := exists_value_of_mapM hfound hentry
  simp only at hitem
  rw [ofEntry_star base hkey hstems] at hitem
  injection hitem with hitem
  subst hitem
  exact List.mem_flatten.mpr ⟨_, hitems, List.mem_singleton_self _⟩

/-- The alias of an entry with stars sends its head and a rest to one path for
each target with a star, in their order. Where target and rest fit, it is the
path of the target with the rest behind the slash that ends it. -/
theorem star_stands_behind_a_slash (base : Text) (hkey : key ≠ [])
    (hstems : stems targets ≠ [])
    (hentry : (key ++ ['*'], .array targets) ∈ entries) :
    ∃ aliases, ofPaths (.string base) (.object entries) = .ok aliases
      ∧ ∃ a ∈ aliases, a.head = key ∧ a.wildcard = true ∧ ∀ rest,
        (a.expand (key ++ rest)).length = (stems targets).length
        ∧ ∀ (i : Nat) (stem : Text), (stems targets)[i]? = some stem → ∃ path,
          (a.expand (key ++ rest))[i]? = some path
          ∧ (Fits base stem rest →
              Path.normal path = Path.normal
                (Path.join base (slashed stem ++ rest))) := by
  obtain ⟨aliases, hpaths, hmem⟩ := exists_ofPaths_star base hkey hstems hentry
  refine ⟨aliases, hpaths, _, hmem, rfl, rfl, fun rest => ?_⟩
  have hexpand :
      Alias.expand ⟨key, (stems targets).map (lead base), true⟩ (key ++ rest)
        = (stems targets).map fun stem => lead base stem ++ rest := by
    rw [expand_of_wildcard rfl, List.map_map]
    rfl
  rw [hexpand]
  refine ⟨List.length_map _,
    fun i stem hstem => ⟨lead base stem ++ rest, ?_, ?_⟩⟩
  · rw [List.getElem?_map, hstem]
    rfl
  · exact normal_lead_append

/-- A target that leaves the base, no target, and one whose star follows a
name. -/
def mixedTargets : List Json :=
  [.string "../lib/*".toList, .null, .string "app*".toList]

theorem star_stands_behind_a_slash_mixed :
    ∃ aliases, ofPaths (.string "src".toList)
        (.object [("@/*".toList, .array mixedTargets)]) = .ok aliases
      ∧ ∃ a ∈ aliases, ∃ first second,
        (a.expand "@/x".toList)[0]? = some first
        ∧ Path.normal first = "lib/x".toList
        ∧ (a.expand "@/x".toList)[1]? = some second
        ∧ Path.normal second = "src/app/x".toList := by
  have hentry : ("@/".toList ++ ['*'], .array mixedTargets)
      ∈ [("@/*".toList, Json.array mixedTargets)] := List.mem_singleton_self _
  obtain ⟨aliases, hpaths, a, ha, -, -, hexpand⟩ :=
    star_stands_behind_a_slash "src".toList (by decide) (by decide) hentry
  obtain ⟨-, hpath⟩ := hexpand "x".toList
  obtain ⟨first, hfirst, hfirstPath⟩ := hpath 0 "../lib/".toList rfl
  obtain ⟨second, hsecond, hsecondPath⟩ := hpath 1 "app".toList rfl
  have hlib : Fits "src".toList "../lib/".toList "x".toList :=
    ⟨by decide, by decide, by decide⟩
  have happ : Fits "src".toList "app".toList "x".toList :=
    ⟨by decide, by decide, by decide⟩
  exact ⟨aliases, hpaths, a, ha, first, second, hfirst, hfirstPath hlib,
    hsecond, hsecondPath happ⟩

/-- A star that follows a name does not continue the name. -/
theorem star_inside_name_moves :
    ¬ ∀ base key stem rest : Text, key ≠ [] → ∃ aliases,
      ofPaths (.string base)
        (.object [(key ++ ['*'], .array [.string (stem ++ ['*'])])])
        = .ok aliases
      ∧ ∃ a ∈ aliases, ∃ path ∈ a.expand (key ++ rest),
        Path.normal path = Path.normal (Path.join base (stem ++ rest)) := by
  intro h
  obtain ⟨aliases, hpaths, a, ha, path, hpath, hnormal⟩ :=
    h ['.'] ['@'] ['l', 'i', 'b'] ['x'] (by decide)
  have hfound : ofPaths (.string ['.'])
      (.object [(['@'] ++ ['*'], .array [.string (['l', 'i', 'b'] ++ ['*'])])])
        = .ok [⟨['@'], [['l', 'i', 'b', '/']], true⟩] := rfl
  rw [hfound] at hpaths
  injection hpaths with hpaths
  subst hpaths
  rw [List.mem_singleton.mp ha] at hpath
  have hexpand :
      Alias.expand ⟨['@'], [['l', 'i', 'b', '/']], true⟩ (['@'] ++ ['x'])
        = [['l', 'i', 'b', '/', 'x']] := rfl
  rw [hexpand] at hpath
  rw [List.mem_singleton.mp hpath] at hnormal
  exact absurd hnormal (by decide)

end SourceAtlas.Alias
