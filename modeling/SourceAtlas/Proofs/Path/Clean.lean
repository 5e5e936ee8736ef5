/-
Clean paths: relative paths of ordinary names, which stay below the root
they are relative to. `clean?` gives clean paths only, whatever it is given,
and gives a clean path back as it is.

The argument is about the stack of components that remain, latest first. It
always has ordinary names on top and double dots at the bottom: a double dot
takes a name back or, if only double dots are left, joins them. A normal
form that does not start with a double dot therefore has none.

Consumed by the theory of import resolution.
-/
import SourceAtlas.Proofs.Path.Components

namespace SourceAtlas.Path

-- =========================================================== clean paths

/-- A relative path of ordinary names: not empty, not absolute, and without
empty, `.` and `..` components. -/
structure IsClean (p : Text) : Prop where
  ne_nil : p ≠ []
  relative : ¬ ['/'] <+: p
  ordinary : ∀ part ∈ components p, part ≠ [] ∧ part ≠ ['.'] ∧ part ≠ ['.', '.']

/-- The components of a clean path are names. -/
theorem IsClean.isName {p part : Text} (h : IsClean p)
    (hm : part ∈ components p) : IsName part := by
  obtain ⟨h1, h2, h3⟩ := h.ordinary part hm
  exact ⟨h1, h2, h3, not_mem_of_mem_components hm⟩

/-- Joined names are a clean path. -/
theorem isClean_join {names : List Text} (hne : names ≠ [])
    (h : ∀ name ∈ names, IsName name) : IsClean (Text.join ['/'] names) := by
  have hc := components_join_names hne h
  refine ⟨?_, ?_, ?_⟩
  · intro hnil
    exact hne ((Text.join_eq_nil_iff fun name hn => (h name hn).ne_nil).mp hnil)
  · intro hslash
    obtain ⟨rest, hrest⟩ := hslash
    -- a slash in front would leave an empty first component
    have hsplit := Text.split_append_cons '/' [] rest
    rw [List.nil_append, ← List.singleton_append, hrest] at hsplit
    have hnil : [] ∈ names := by
      rw [← hc]
      unfold components
      rw [hsplit]
      simp [Text.split]
    exact (h [] hnil).ne_nil rfl
  · intro part hm
    rw [hc] at hm
    obtain ⟨h1, h2, h3, -⟩ := h part hm
    exact ⟨h1, h2, h3⟩

-- ============================================== the stack of components

/-- The shape of the stack: names on top, double dots below them. -/
def Settled (stack : List Text) : Prop :=
  ∃ names climbs, stack = names ++ climbs
    ∧ (∀ name ∈ names, IsName name) ∧ ∀ climb ∈ climbs, climb = ['.', '.']

/-- A name is pushed. -/
theorem pushComponent_of_isName {absolute : Bool} {part : Text}
    (stack : List Text) (h : IsName part) :
    pushComponent absolute stack part = part :: stack := by
  obtain ⟨h1, h2, h3, -⟩ := h
  unfold pushComponent
  rw [if_neg (by simp [h1, h2]), if_neg h3]

/-- One component keeps the shape of the stack. -/
theorem settled_pushComponent {stack : List Text} {part : Text}
    (hpart : '/' ∉ part) (hs : Settled stack) :
    Settled (pushComponent false stack part) := by
  obtain ⟨names, climbs, rfl, hnames, hclimbs⟩ := hs
  by_cases hskip : part = [] ∨ part = ['.']
  · unfold pushComponent
    rw [if_pos (by simpa using hskip)]
    exact ⟨names, climbs, rfl, hnames, hclimbs⟩
  · obtain ⟨h1, h2⟩ := not_or.mp hskip
    by_cases hup : part = ['.', '.']
    · unfold pushComponent
      rw [if_neg (by simp [h1, h2]), if_pos hup]
      cases names with
      | cons top below =>
          -- a name is on top and is taken back
          have htop : top ≠ ['.', '.'] := (hnames top List.mem_cons_self).2.2.1
          simp only [List.cons_append, if_neg htop]
          exact ⟨below, climbs, rfl,
            fun name hn => hnames name (List.mem_cons_of_mem _ hn), hclimbs⟩
      | nil =>
          refine ⟨[], ['.', '.'] :: climbs, ?_, by simp, ?_⟩
          · cases climbs with
            | nil => simp [hup]
            | cons top below => simp [hclimbs top List.mem_cons_self, hup]
          · intro climb hc
            rcases List.mem_cons.1 hc with hc | hc
            · exact hc
            · exact hclimbs climb hc
    · have hname : IsName part := ⟨h1, h2, hup, hpart⟩
      rw [pushComponent_of_isName _ hname]
      refine ⟨part :: names, climbs, rfl, ?_, hclimbs⟩
      intro name hn
      rcases List.mem_cons.1 hn with rfl | hn
      · exact hname
      · exact hnames name hn

/-- Some components keep the shape of the stack. -/
theorem settled_foldl {parts stack : List Text}
    (hparts : ∀ part ∈ parts, '/' ∉ part) (hs : Settled stack) :
    Settled (parts.foldl (pushComponent false) stack) := by
  induction parts generalizing stack with
  | nil => exact hs
  | cons part rest ih =>
      rw [List.foldl_cons]
      refine ih (fun p hp => hparts p (List.mem_cons_of_mem _ hp)) ?_
      exact settled_pushComponent (hparts part List.mem_cons_self) hs

/-- Names are pushed one after the other. -/
theorem foldl_pushComponent_names {absolute : Bool} {names : List Text}
    (stack : List Text) (h : ∀ name ∈ names, IsName name) :
    names.foldl (pushComponent absolute) stack = names.reverse ++ stack := by
  induction names generalizing stack with
  | nil => rfl
  | cons name rest ih =>
      rw [List.foldl_cons,
        pushComponent_of_isName _ (h name List.mem_cons_self),
        ih _ fun n hn => h n (List.mem_cons_of_mem _ hn)]
      simp

-- =========================================================== normal form

/-- A path that is not absolute starts with no slash. -/
theorem leadingSlashes_of_relative {p : Text} (h : ¬ ['/'] <+: p) :
    leadingSlashes p = 0 := by
  unfold leadingSlashes
  split
  all_goals first
    | rfl
    | exact absurd ⟨_, rfl⟩ h

/-- The normal form of a relative path. -/
theorem normal_of_relative {p : Text} (h : ¬ ['/'] <+: p) :
    normal p =
      if (Text.join ['/'] ((components p).foldl (pushComponent false)
        []).reverse).isEmpty
      then ['.']
      else Text.join ['/']
        ((components p).foldl (pushComponent false) []).reverse := by
  unfold normal
  rw [leadingSlashes_of_relative h]
  rfl

/-- Components with a double dot in front join to a text that starts with
it. -/
theorem join_climb (rest : List Text) :
    Text.join ['/'] (['.', '.'] :: rest) = ['.', '.']
      ∨ ['.', '.', '/'] <+: Text.join ['/'] (['.', '.'] :: rest) := by
  cases rest with
  | nil => exact Or.inl rfl
  | cons next more => exact Or.inr ⟨Text.join ['/'] (next :: more), rfl⟩

/-- What `clean?` checks. -/
theorem clean?_eq_some_iff {p q : Text} :
    clean? p = some q ↔
      p ≠ [] ∧ ¬ ['/'] <+: p ∧ q = normal p
        ∧ q ≠ ['.'] ∧ q ≠ ['.', '.'] ∧ ¬ ['.', '.', '/'] <+: q := by
  unfold clean?
  -- The two checks come one after the other, of the path and of its normal
  -- form.
  by_cases hp : p = [] ∨ ['/'] <+: p
  · rw [if_pos (by simpa using hp)]
    constructor
    · intro h
      cases h
    · intro h
      obtain ⟨h1, h2, -⟩ := h
      exact absurd hp (not_or.mpr ⟨h1, h2⟩)
  · obtain ⟨h1, h2⟩ := not_or.mp hp
    rw [if_neg (by simpa using hp)]
    by_cases hout : (normal p = ['.'] ∨ normal p = ['.', '.'])
        ∨ ['.', '.', '/'] <+: normal p
    · rw [if_pos (by simpa using hout)]
      constructor
      · intro h
        cases h
      · intro h
        obtain ⟨-, -, rfl, h3, h4, h5⟩ := h
        exact absurd hout (not_or.mpr ⟨not_or.mpr ⟨h3, h4⟩, h5⟩)
    · rw [if_neg (by simpa using hout)]
      obtain ⟨h34, h5⟩ := not_or.mp hout
      obtain ⟨h3, h4⟩ := not_or.mp h34
      constructor
      · intro h
        injection h with hq
        subst hq
        exact ⟨h1, h2, rfl, h3, h4, h5⟩
      · intro h
        obtain ⟨-, -, rfl, -⟩ := h
        rfl

/-- Whatever it is given, `clean?` gives clean paths only. -/
theorem isClean_of_clean? {p q : Text} (h : clean? p = some q) : IsClean q := by
  obtain ⟨-, hrel, hq, hdot, hup, hclimb⟩ := clean?_eq_some_iff.mp h
  have hstack : Settled ((components p).foldl (pushComponent false) []) :=
    settled_foldl (fun _ hm => not_mem_of_mem_components hm)
      ⟨[], [], rfl, by simp, by simp⟩
  obtain ⟨names, climbs, hst, hnames, hclimbs⟩ := hstack
  rw [normal_of_relative hrel, hst, List.reverse_append] at hq
  split at hq
  case isTrue => exact absurd hq hdot
  case isFalse hne =>
    -- a double dot on the stack would stand in front of the normal form
    cases hcl : climbs.reverse with
    | cons climb rest =>
        have hc : climb = ['.', '.'] :=
          hclimbs climb (List.mem_reverse.mp
            (by rw [hcl]; exact List.mem_cons_self))
        rw [hcl, List.cons_append, hc] at hq
        rcases join_climb (rest ++ names.reverse) with hj | hj
        · exact absurd (hq.trans hj) hup
        · exact absurd (hq ▸ hj) hclimb
    | nil =>
        rw [hcl, List.nil_append] at hq hne
        rw [hq]
        refine isClean_join ?_ fun name hn =>
          hnames name (List.mem_reverse.mp hn)
        intro hnil
        rw [hnil] at hne
        exact hne rfl

/-- `clean?` gives a clean path back as it is. -/
theorem clean?_of_isClean {p : Text} (h : IsClean p) : clean? p = some p := by
  have hnames : ∀ part ∈ components p, IsName part := fun _ hm => h.isName hm
  have hnorm : normal p = p := by
    rw [normal_of_relative h.relative, foldl_pushComponent_names [] hnames,
      List.append_nil, List.reverse_reverse, join_components]
    exact if_neg (by simpa using h.ne_nil)
  refine clean?_eq_some_iff.mpr ⟨h.ne_nil, h.relative, hnorm.symm, ?_, ?_, ?_⟩
  · intro heq
    subst heq
    exact (h.ordinary ['.'] (by decide)).2.1 rfl
  · intro heq
    subst heq
    exact (h.ordinary ['.', '.'] (by decide)).2.2 rfl
  · intro hclimbs
    obtain ⟨rest, rfl⟩ := hclimbs
    have hm : ['.', '.'] ∈ components (['.', '.'] ++ '/' :: rest) := by
      unfold components
      rw [Text.split_append_cons]
      exact List.mem_append_left _ (by decide)
    exact (h.ordinary ['.', '.'] hm).2.2 rfl

-- ==================================================== without climbing

theorem foldl_pushComponent_of_not_climbing {absolute : Bool}
    {parts : List Text} (stack : List Text) (h : ['.', '.'] ∉ parts) :
    parts.foldl (pushComponent absolute) stack
      = (parts.filter fun part => part != [] && part != ['.']).reverse
        ++ stack := by
  induction parts generalizing stack with
  | nil => rfl
  | cons part rest ih =>
      rw [List.mem_cons, not_or] at h
      obtain ⟨hpart, hrest⟩ := h
      rw [List.foldl_cons, ih _ hrest, List.filter_cons]
      by_cases hskip : part = [] ∨ part = ['.']
      · have hpush : pushComponent absolute stack part = stack := by
          unfold pushComponent
          rw [if_pos (by simpa using hskip)]
        rw [hpush,
          if_neg (by simpa [Classical.or_iff_not_imp_left] using hskip)]
      · obtain ⟨hnil, hdot⟩ := not_or.mp hskip
        have hpush : pushComponent absolute stack part = part :: stack := by
          unfold pushComponent
          rw [if_neg (by simp [hnil, hdot]), if_neg (Ne.symm hpart)]
        rw [hpush, if_pos (by simp [hnil, hdot])]
        simp

/-- The clean form of a path without double dots keeps its names. -/
theorem components_of_clean?_of_not_climbing {p q : Text}
    (h : clean? p = some q) (hclimb : ['.', '.'] ∉ components p) :
    components q = (components p).filter fun part => part != []
      && part != ['.'] := by
  obtain ⟨-, hrel, hq, hdot, -⟩ := clean?_eq_some_iff.mp h
  rw [normal_of_relative hrel, foldl_pushComponent_of_not_climbing [] hclimb,
    List.append_nil, List.reverse_reverse] at hq
  split at hq
  case isTrue => exact absurd hq hdot
  case isFalse hne =>
    rw [hq]
    apply components_join_names
    · intro hnil
      rw [hnil] at hne
      exact hne rfl
    · intro name hname
      obtain ⟨hmem, hkeep⟩ := List.mem_filter.mp hname
      simp only [Bool.and_eq_true, bne_iff_ne, ne_eq] at hkeep
      refine ⟨hkeep.1, hkeep.2, ?_, not_mem_of_mem_components hmem⟩
      rintro rfl
      exact hclimb hmem

end SourceAtlas.Path
