/-
Which file a Python module is in. A relative module climbs from the directory
of its source, one level for each dot but the first, and an absolute one is
looked for from the top; both look for the file of the module and then for that
of its package. Paths are texts here, so climbing means cutting off what follows
the last slash (`levelsUp_join`) and a module becomes a path by replacing its
dots (`modulePath_dotted`). Once both are seen as lists of names, the two look
at the same files.

A relative module has one candidate more, the initializer of the directory that
its dots lead to. That is meant for names that are taken from the dots alone,
but the specifier of `from .m import x` does not show the difference, and so a
module without a file falls back as well (`named_module_falls_back`).
-/
import SourceAtlas.Proofs.Extract.Edges
import SourceAtlas.Proofs.Import.PythonStatement

namespace SourceAtlas.Import

open SourceAtlas.Path (IsClean IsName)
open Text (Inline ofLines)

variable {root : Node} {f : SourceFile} {t name : Text}
  {dirs names above : List Text} {n : Nat}

-- =================================================================== names

/-- What can stand between the dots of a module. -/
structure IsPart (s : Text) : Prop where
  ne_nil : s ≠ []
  no_slash : '/' ∉ s
  no_dot : '.' ∉ s

instance (s : Text) : Decidable (IsPart s) :=
  decidable_of_iff (s ≠ [] ∧ '/' ∉ s ∧ '.' ∉ s)
    ⟨fun h => ⟨h.1, h.2.1, h.2.2⟩, fun h => ⟨h.ne_nil, h.no_slash, h.no_dot⟩⟩

/-- Parts of a module name can name files. -/
theorem IsPart.isName (h : IsPart name) : IsName name := by
  refine ⟨h.ne_nil, ?_, ?_, h.no_slash⟩
  · rintro rfl
    exact h.no_dot List.mem_cons_self
  · rintro rfl
    exact h.no_dot List.mem_cons_self

/-- Identifiers are parts of a module name. -/
theorem Identifier.isPart (i : Identifier) : IsPart i.text := by
  refine ⟨i.nonempty, fun hc => ?_, fun hc => ?_⟩
  · exact absurd (i.word '/' hc) (by decide)
  · exact absurd (i.word '.' hc) (by decide)

/-- A module by the parts of its name. -/
def dotted (names : List Text) : Text := Text.join ['.'] names

/-- The file that a module has for itself. -/
def moduleFile (names : List Text) : Text :=
  Text.join ['/'] names ++ ".py".toList

/-- The file of a module that is a directory. -/
def packageFile (names : List Text) : Text :=
  Text.join ['/'] (names ++ ["__init__.py".toList])

/-- The file of a module has a clean path. -/
theorem isClean_moduleFile (hne : names ≠ []) (h : ∀ s ∈ names, IsName s) :
    IsClean (moduleFile names) := by
  obtain ⟨inner, name, rfl⟩ := (List.eq_nil_or_concat' names).resolve_left hne
  obtain ⟨hinner, hname⟩ := List.forall_mem_append.mp h
  have hlast : IsName (name ++ ".py".toList) := by
    refine Path.isName_of_length ?_ ?_
    · rw [List.length_append]
      exact Nat.lt_add_left name.length (by decide)
    · rw [List.mem_append]
      exact not_or.mpr
        ⟨(hname name List.mem_cons_self).slash_not_mem, by decide⟩
  have hfile : moduleFile (inner ++ [name])
      = Text.join ['/'] (inner ++ [name ++ ".py".toList]) := by
    by_cases hnil : inner = []
    · rw [hnil]
      rfl
    · rw [moduleFile, Text.join_concat hnil, Text.join_concat hnil,
        List.append_assoc]
  rw [hfile]
  refine Path.isClean_join (by simp) ?_
  rw [List.forall_mem_append, List.forall_mem_singleton]
  exact ⟨hinner, hlast⟩

theorem isClean_packageFile (h : ∀ s ∈ names, IsName s) :
    IsClean (packageFile names) := by
  refine Path.isClean_join (by simp) ?_
  rw [List.forall_mem_append, List.forall_mem_singleton]
  exact ⟨h, by decide⟩

/-- A module is a file or a package. -/
theorem moduleFiles_join (hne : names ≠ []) :
    moduleFiles (Text.join ['/'] names)
      = [moduleFile names, packageFile names] := by
  rw [packageFile, Text.join_concat hne, List.append_assoc]
  rfl

/-- Dots become slashes. -/
theorem modulePath_dotted (h : ∀ s ∈ names, IsPart s) :
    modulePath (dotted names) = Text.join ['/'] names := by
  have hpart {s : Text} (hs : IsPart s) : modulePath s = s := by
    have hkeep : ∀ c ∈ s, (if c = '.' then ['/'] else [c]) = [c] := by
      intro c hc
      apply if_neg
      rintro rfl
      exact hs.no_dot hc
    rw [modulePath, Text.replaceChar, List.flatMap_congr hkeep]
    exact List.flatMap_singleton' s
  induction names with
  | nil => rfl
  | cons first names ih =>
      obtain ⟨hfirst, hothers⟩ := List.forall_mem_cons.mp h
      cases names with
      | nil => exact hpart hfirst
      | cons next names =>
          have happend (a b : Text) : modulePath (a ++ b)
              = modulePath a ++ modulePath b :=
            List.flatMap_append
          rw [dotted, Text.join_cons_cons, happend, happend, hpart hfirst,
            Text.join_cons_cons]
          exact congrArg (first ++ ['/'] ++ ·) (ih hothers)

/-- A module name does not start with a dot. -/
theorem head?_dotted (hne : names ≠ []) (h : ∀ s ∈ names, IsPart s) :
    ∀ c ∈ (dotted names).head?, (c == '.') = false := by
  obtain ⟨first, names, rfl⟩ := List.exists_cons_of_ne_nil hne
  have hfirst := h first List.mem_cons_self
  obtain ⟨c, rest, rfl⟩ := List.exists_cons_of_ne_nil hfirst.ne_nil
  have hc : (dotted ((c :: rest) :: names)).head? = some c := by
    cases names <;> rfl
  rw [hc]
  intro d hd
  refine beq_eq_false_iff_ne.mpr ?_
  rintro rfl
  rw [Option.some.inj hd] at hfirst
  exact hfirst.no_dot List.mem_cons_self

-- ================================================================ climbing

/-- The directory so many levels up. -/
def packageAbove (dirs : List Text) (n : Nat) : List Text :=
  dirs.take (dirs.length - n)

/-- The packages above a package have names. -/
theorem isName_packageAbove (n : Nat) (h : ∀ s ∈ dirs, IsName s) :
    ∀ s ∈ packageAbove dirs n, IsName s :=
  fun s hs => h s (List.mem_of_mem_take hs)

/-- The parent of a path is the path without its last name. -/
theorem parent_join (dirs : List Text) (hname : IsName name) :
    Path.parent (Text.join ['/'] (dirs ++ [name])) = Text.join ['/'] dirs := by
  unfold Path.parent
  by_cases hnil : dirs = []
  · rw [hnil]
    have hcut : Text.cutLast? ['/'] name = none :=
      Text.cutLast?_eq_none_iff.mpr hname.slash_not_mem
    show ((Text.cutLast? ['/'] name).map (·.1)).getD [] = []
    rw [hcut]
    rfl
  · rw [Text.join_concat hnil, List.append_assoc, List.singleton_append,
      Text.cutLast?_append _ hname.slash_not_mem]
    rfl

/-- Going up drops the last directories, as long as there are any. -/
theorem levelsUp_join (hdirs : ∀ s ∈ dirs, IsName s) :
    levelsUp n (Text.join ['/'] dirs)
      = if n ≤ dirs.length then some (Text.join ['/'] (packageAbove dirs n))
        else none := by
  induction n generalizing dirs with
  | zero =>
      rw [if_pos (Nat.zero_le _), packageAbove, Nat.sub_zero, List.take_length]
      rfl
  | succ n ih =>
      rcases List.eq_nil_or_concat' dirs with rfl | ⟨inner, name, rfl⟩
      · rfl
      · obtain ⟨hinner, hname⟩ := List.forall_mem_append.mp hdirs
        have hname := hname name List.mem_cons_self
        have hsome : (Text.join ['/'] (inner ++ [name])).isEmpty = false := by
          rw [List.isEmpty_eq_false_iff, Ne,
            Text.join_eq_nil_iff fun s hs => (hdirs s hs).ne_nil]
          simp
        have habove : packageAbove (inner ++ [name]) (n + 1)
            = packageAbove inner n := by
          rw [packageAbove, List.length_append, List.length_singleton,
            Nat.add_sub_add_right]
          exact List.take_append_of_le_length (Nat.sub_le _ _)
        rw [levelsUp, hsome, if_neg Bool.false_ne_true, parent_join inner hname,
          ih hinner, habove, List.length_append, List.length_singleton]
        simp only [Nat.add_le_add_iff_right]

/-- A path below a directory, which may be the top. -/
theorem above_append_join (habove : ∀ s ∈ above, IsName s) (hne : names ≠ []) :
    (if (Text.join ['/'] above).isEmpty then []
      else Text.join ['/'] above ++ ['/'])
        ++ Text.join ['/'] names
      = Text.join ['/'] (above ++ names) := by
  have hempty : (Text.join ['/'] above).isEmpty = true ↔ above = [] := by
    rw [List.isEmpty_iff, Text.join_eq_nil_iff fun s hs => (habove s hs).ne_nil]
  by_cases hnil : above = []
  · rw [if_pos (hempty.mpr hnil), hnil]
    rfl
  · rw [if_neg (hempty.not.mpr hnil), Text.join_append hnil hne]

-- ============================================================== resolution

/-- Whether a path is that of a regular file. -/
abbrev hasFile (root : Node) (path : Text) : Bool :=
  root.fileAt (Path.components path)

/-- Among clean paths the first file is found. -/
theorem firstExisting_of_isClean {tried : List Text}
    (h : ∀ p ∈ tried, IsClean p) :
    firstExisting root tried = tried.find? (hasFile root) := by
  induction tried with
  | nil => rfl
  | cons p tried ih =>
      obtain ⟨hp, hothers⟩ := List.forall_mem_cons.mp h
      rw [firstExisting_cons_of_isClean root hp, ih hothers]
      by_cases hfile : hasFile root p = true
      · rw [if_pos hfile, List.find?_cons_of_pos hfile]
      · rw [if_neg hfile, List.find?_cons_of_neg hfile]

/-- Dots and the module behind them are told apart. -/
theorem span_dots (n : Nat) (hne : names ≠ [])
    (hnames : ∀ s ∈ names, IsPart s) :
    (List.replicate n '.' ++ dotted names).takeWhile (· == '.')
      = List.replicate n '.'
      ∧ (List.replicate n '.' ++ dotted names).dropWhile (· == '.')
        = dotted names := by
  have hdots : ∀ c ∈ List.replicate n '.', (c == '.') = true :=
    fun c hc => beq_iff_eq.mpr (List.eq_of_mem_replicate hc)
  have hhead := head?_dotted hne hnames
  rw [List.takeWhile_append_of_pos hdots, List.dropWhile_append_of_pos hdots]
  cases hname : dotted names with
  | nil => simp
  | cons c rest =>
      rw [hname] at hhead
      simp [hhead c rfl]

/-- A relative module is looked for in the directory that its dots lead to; the
initializer there comes last. -/
theorem resolve_relative (hdir : f.directory = Text.join ['/'] dirs)
    (hdirs : ∀ s ∈ dirs, IsName s) (hne : names ≠ [])
    (hnames : ∀ s ∈ names, IsPart s) :
    resolvePython root f (List.replicate (n + 1) '.' ++ dotted names)
      = if n ≤ dirs.length then
          [moduleFile (packageAbove dirs n ++ names),
            packageFile (packageAbove dirs n ++ names),
            packageFile (packageAbove dirs n)].find? (hasFile root)
        else none := by
  have hsome : (dotted names).isEmpty = false := by
    rw [List.isEmpty_eq_false_iff, dotted, Ne,
      Text.join_eq_nil_iff fun s hs => (hnames s hs).ne_nil]
    exact hne
  have habove := isName_packageAbove n hdirs
  have hsplit := span_dots (n + 1) hne hnames
  have hall : ∀ s ∈ packageAbove dirs n ++ names, IsName s :=
    List.forall_mem_append.mpr ⟨habove, fun s hs => (hnames s hs).isName⟩
  have hclean :
      ∀ p ∈ [moduleFile (packageAbove dirs n ++ names),
        packageFile (packageAbove dirs n ++ names),
        packageFile (packageAbove dirs n)], IsClean p := by
    rw [List.forall_mem_cons, List.forall_mem_cons, List.forall_mem_singleton]
    exact ⟨isClean_moduleFile (by simp [hne]) hall, isClean_packageFile hall,
      isClean_packageFile habove⟩
  have hprefix : ['.'].isPrefixOf (List.replicate (n + 1) '.' ++ dotted names)
      = true := rfl
  unfold resolvePython resolveRelative
  rw [if_pos hprefix]
  simp only [hsplit, List.length_replicate, Nat.add_sub_cancel, hdir,
    levelsUp_join hdirs]
  by_cases hn : n ≤ dirs.length
  · rw [if_pos hn, if_pos hn, ← firstExisting_of_isClean hclean]
    show (if (dotted names).isEmpty = true then _
      else firstExisting root
      (moduleFiles (_ ++ modulePath (dotted names))
        ++ [_ ++ "__init__.py".toList])) = _
    -- The candidates are joined to the directory as texts; as lists of names
    -- they are those of the statement.
    rw [hsome, if_neg Bool.false_ne_true, modulePath_dotted hnames,
      above_append_join habove hne, moduleFiles_join (by simp [hne])]
    have hinit :=
      above_append_join habove (List.cons_ne_nil "__init__.py".toList [])
    show firstExisting root [_, _, _ ++ Text.join ['/'] ["__init__.py".toList]]
      = _
    rw [hinit]
    rfl
  · rw [if_neg hn, if_neg hn]

/-- An absolute module that has a file below the top is found there. -/
theorem resolve_absolute (hne : names ≠ []) (hnames : ∀ s ∈ names, IsPart s)
    (h : [moduleFile names, packageFile names].find? (hasFile root) = some t) :
    resolvePython root f (dotted names) = some t := by
  have hall : ∀ s ∈ names, IsName s := fun s hs => (hnames s hs).isName
  have hclean : ∀ p ∈ [moduleFile names, packageFile names], IsClean p := by
    rw [List.forall_mem_cons, List.forall_mem_singleton]
    exact ⟨isClean_moduleFile hne hall, isClean_packageFile hall⟩
  have htop : firstExisting root (moduleFiles ([] ++ modulePath (dotted names)))
      = some t := by
    rw [List.nil_append, modulePath_dotted hnames, moduleFiles_join hne,
      firstExisting_of_isClean hclean, h]
  have hprefix : ¬ ['.'].isPrefixOf (dotted names) = true := by
    rw [List.isPrefixOf_iff_prefix]
    rintro ⟨rest, hrest⟩
    exact absurd (head?_dotted hne hnames '.' (by rw [← hrest]; rfl))
      (by decide)
  unfold resolvePython
  rw [if_neg hprefix]
  unfold pythonRoots
  split
  case isTrue => rw [List.findSome?_cons, htop]
  case isFalse => rw [List.findSome?_cons, htop]

-- ===================================================== relative and absolute

/-- Relative and absolute modules agree. Dots that lead out of the project lead
nowhere; otherwise a relative module that has a file is the same file as the
absolute module below the directory that the dots lead to: the file of the
module, or else that of its package. -/
theorem Resolver.relative_and_absolute_modules_agree (root : Node) (n : Nat)
    (hdir : f.directory = Text.join ['/'] dirs) (hdirs : ∀ s ∈ dirs, IsPart s)
    (hne : names ≠ []) (hnames : ∀ s ∈ names, IsPart s) :
    (dirs.length < n →
        python.resolve root f (List.replicate (n + 1) '.' ++ dotted names)
          = none)
      ∧ (n ≤ dirs.length →
          hasFile root (moduleFile (packageAbove dirs n ++ names)) = true
            ∨ hasFile root (packageFile (packageAbove dirs n ++ names)) = true →
          python.resolve root f (List.replicate (n + 1) '.' ++ dotted names)
              = python.resolve root f (dotted (packageAbove dirs n ++ names))
            ∧ python.resolve root f (dotted (packageAbove dirs n ++ names))
              = some (if hasFile root
                    (moduleFile (packageAbove dirs n ++ names))
                  then moduleFile (packageAbove dirs n ++ names)
                  else packageFile (packageAbove dirs n ++ names))) := by
  have hrelative :
      python.resolve root f (List.replicate (n + 1) '.' ++ dotted names) = _ :=
    resolve_relative hdir (fun s hs => (hdirs s hs).isName) hne hnames
  have hall : ∀ s ∈ packageAbove dirs n ++ names, IsPart s :=
    List.forall_mem_append.mpr
      ⟨fun s hs => hdirs s (List.mem_of_mem_take hs), hnames⟩
  refine ⟨fun hout => ?_, fun hin hfile => ?_⟩
  · rw [hrelative, if_neg (by omega)]
  · have habsolute {t : Text}
        (h :
          [moduleFile (packageAbove dirs n ++ names),
            packageFile (packageAbove dirs n ++ names)].find? (hasFile root)
          = some t) :
        python.resolve root f (dotted (packageAbove dirs n ++ names))
          = some t :=
      resolve_absolute (by simp [hne]) hall h
    rw [hrelative, if_pos hin]
    by_cases hmodule : hasFile root (moduleFile (packageAbove dirs n ++ names))
      = true
    · rw [if_pos hmodule, List.find?_cons_of_pos hmodule]
      have hfound := habsolute (List.find?_cons_of_pos hmodule)
      exact ⟨hfound.symm, hfound⟩
    -- The initializer of the directory itself, the last candidate of the
    -- relative module, is not reached.
    · have hpackage := hfile.resolve_left hmodule
      rw [if_neg hmodule, List.find?_cons_of_neg hmodule,
        List.find?_cons_of_pos hpackage]
      have hfound :=
        habsolute ((List.find?_cons_of_neg hmodule).trans
          (List.find?_cons_of_pos hpackage))
      exact ⟨hfound.symm, hfound⟩

/-- A package with a module and a package in it. -/
def shopTree : Node :=
  .directory [("shop".toList, .directory [("__init__.py".toList, .file [] true),
    ("models.py".toList, .file [] true),
    ("billing".toList, .directory [("__init__.py".toList, .file [] true)]),
    ("api".toList, .directory [("routes.py".toList, .file [] true)])])]

/-- Two dots lead from `shop/api` to `shop`, three to the top, and four out of
the project. -/
theorem Resolver.relative_and_absolute_modules_agree_shop :
    (python.resolve shopTree ⟨"shop/api/routes.py".toList, ".py".toList⟩
      "..billing".toList
        = python.resolve shopTree ⟨"shop/api/routes.py".toList, ".py".toList⟩
          "shop.billing".toList
      ∧ python.resolve shopTree ⟨"shop/api/routes.py".toList, ".py".toList⟩
        "shop.billing".toList
        = some "shop/billing/__init__.py".toList)
    ∧ (python.resolve shopTree ⟨"shop/api/routes.py".toList, ".py".toList⟩
      "...shop.models".toList
        = python.resolve shopTree ⟨"shop/api/routes.py".toList, ".py".toList⟩
          "shop.models".toList
      ∧ python.resolve shopTree ⟨"shop/api/routes.py".toList, ".py".toList⟩
        "shop.models".toList
        = some "shop/models.py".toList)
    ∧ python.resolve shopTree ⟨"shop/api/routes.py".toList, ".py".toList⟩
      "....shop".toList
        = none := by
  have hdir : SourceFile.directory ⟨"shop/api/routes.py".toList, ".py".toList⟩
      = Text.join ['/'] ["shop".toList, "api".toList] := by decide
  have hdirs : ∀ s ∈ ["shop".toList, "api".toList], IsPart s := by decide
  refine ⟨?_, ?_, ?_⟩
  · exact (relative_and_absolute_modules_agree shopTree 1 hdir hdirs
      (List.cons_ne_nil "billing".toList []) (by decide)).2
      (by decide) (by decide)
  · exact (relative_and_absolute_modules_agree shopTree 2 hdir hdirs
      (List.cons_ne_nil "shop".toList ["models".toList]) (by decide)).2
      (by decide) (by decide)
  · exact (relative_and_absolute_modules_agree shopTree 3 hdir hdirs
      (List.cons_ne_nil "shop".toList []) (by decide)).1 (by decide)

-- ================================================================= fallback

/-- All names of a dotted name are parts of a module name. -/
theorem DottedName.isPart_names (m : DottedName) : ∀ s ∈ m.names, IsPart s := by
  intro s hs
  obtain ⟨i, -, rfl⟩ := List.mem_map.mp hs
  exact i.isPart

/-- A text with one specifier has at most one target. -/
theorem Resolver.targets_of_specifiers_eq {r : Resolver} {text specifier : Text}
    (h : specifiers text r.language = [specifier]) :
    r.targets root f text = (r.resolve root f specifier).toList := by
  unfold targets
  rw [h]
  cases hres : r.resolve root f specifier with
  | none => simp [hres, Text.dedupe]
  | some t =>
      have hne : t ≠ [] := ne_nil_of_resolve hres
      simp [hres, Text.dedupe, hne, List.eraseDups_cons]

/-- A module that names are taken from falls back to the directory that its dots
lead to: the one target is the file of the module, or else that of its package,
or else the initializer of that directory. So the target is the module's own
exactly if the module has a file or there is no such initializer. -/
theorem Resolver.named_module_falls_back (root : Node) (n : Nat) (closed : Bool)
    {m : DottedName} {l : FromHeadline} {clause : Text}
    (hdir : f.directory = Text.join ['/'] dirs) (hdirs : ∀ s ∈ dirs, IsName s)
    (hsource : l.source = .module (n + 1) m) (hclause : ClauseText clause) :
    python.targets root f (ofLines closed [l.text ++ clause])
        = (if n ≤ dirs.length then
            [moduleFile (packageAbove dirs n ++ m.names),
              packageFile (packageAbove dirs n ++ m.names),
              packageFile (packageAbove dirs n)].find? (hasFile root)
          else none).toList
      ∧ ((∀ t ∈ python.targets root f (ofLines closed [l.text ++ clause]),
            t = moduleFile (packageAbove dirs n ++ m.names)
              ∨ t = packageFile (packageAbove dirs n ++ m.names))
          ↔ (n ≤ dirs.length →
            hasFile root (packageFile (packageAbove dirs n)) = true →
              hasFile root (moduleFile (packageAbove dirs n ++ m.names)) = true
                ∨ hasFile root (packageFile (packageAbove dirs n ++ m.names))
                  = true)) := by
  have htargets : python.targets root f (ofLines closed [l.text ++ clause])
      = _ :=
    targets_of_specifiers_eq (l.specifiers_module closed hsource hclause)
  have hresolve : python.resolve root f (List.replicate (n + 1) '.' ++ m.text)
      = _ :=
    resolve_relative hdir hdirs m.names_ne_nil m.isPart_names
  rw [hresolve] at htargets
  refine ⟨htargets, ?_⟩
  rw [htargets]
  by_cases hn : n ≤ dirs.length
  · rw [if_pos hn]
    generalize packageAbove dirs n = above
    by_cases hmodule : hasFile root (moduleFile (above ++ m.names)) = true
    · simp [hmodule]
    · by_cases hpackage : hasFile root (packageFile (above ++ m.names)) = true
      · simp [hmodule, hpackage]
      · by_cases hinit : hasFile root (packageFile above) = true
        · -- the initializer is no file of the module, since that has none
          have hne : packageFile above ≠ moduleFile (above ++ m.names) :=
            fun h => hmodule (h ▸ hinit)
          have hne' : packageFile above ≠ packageFile (above ++ m.names) :=
            fun h => hpackage (h ▸ hinit)
          simp [hmodule, hpackage, hinit, hn, hne, hne']
        · simp [hmodule, hpackage, hinit]
  · simp [hn]

/-- A package with one module beside its initializer. -/
def loosePackage : Node :=
  .directory [("pkg".toList, .directory
    [("__init__.py".toList, .file [] true), ("a.py".toList, .file [] true)])]

/-- A module without a file has a target, and that is no file of the module. -/
theorem Resolver.missing_module_has_target :
    python.targets loosePackage ⟨"pkg/a.py".toList, ".py".toList⟩
      "from .missing import x".toList
        = ["pkg/__init__.py".toList]
      ∧ loosePackage.fileAt ["pkg".toList, "missing.py".toList] = false
      ∧ loosePackage.fileAt
        ["pkg".toList, "missing".toList, "__init__.py".toList] = false := by
  decide

/-- The headline of `from .missing import`. -/
def missingHeadline : FromHeadline where
  source :=
    .module 1 ⟨[⟨"missing".toList, by decide, by decide, by decide⟩], by decide⟩
  indent := []
  gapFrom := [' ']
  gapName := [' ']
  gapImport := [' ']
  inline := by simp [Inline]
  apartFrom := ⟨by decide, by simp [Inline, Text.isInline]⟩
  apartName := ⟨by decide, by simp [Inline, Text.isInline]⟩
  apartImport := ⟨by decide, by simp [Inline, Text.isInline]⟩

/-- The target is found by the rule, and not being the module's own it shows
that the module has no file but the package an initializer. -/
theorem Resolver.named_module_falls_back_missing :
    python.targets loosePackage ⟨"pkg/a.py".toList, ".py".toList⟩
      "from .missing import x".toList
        = (if 0 ≤ 1 then
            ["pkg/missing.py".toList, "pkg/missing/__init__.py".toList,
              "pkg/__init__.py".toList].find? (hasFile loosePackage)
          else none).toList
      ∧ ¬ ∀ t ∈ python.targets loosePackage ⟨"pkg/a.py".toList, ".py".toList⟩
          "from .missing import x".toList,
          t = "pkg/missing.py".toList
            ∨ t = "pkg/missing/__init__.py".toList := by
  have hdir : SourceFile.directory ⟨"pkg/a.py".toList, ".py".toList⟩
      = Text.join ['/'] ["pkg".toList] := by decide
  have hclause : ClauseText "x".toList := by
    refine .line (by decide) (by decide) fun c hc => ?_
    obtain rfl : 'x' = c := by simpa using hc
    decide
  obtain ⟨htargets, hown⟩ :=
    named_module_falls_back (l := missingHeadline) loosePackage 0 false hdir
      (by decide) rfl hclause
  refine ⟨htargets, fun hall => ?_⟩
  exact absurd (hown.mp hall) (by decide)

end SourceAtlas.Import
