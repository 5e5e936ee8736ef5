/-
A path as a walk from the root. Each component goes nowhere, goes on to a name
or takes the last name back, and a walk that would go above the root ends
there: `walk?` has no result, wherever the path leads afterwards.

Normal forms know no such end. A double dot that has nothing to take back
stays at the bottom of the stack, where nothing removes it any more
(`exists_foldl_of_climbed`), so the double dot in front of a normal form tells
that the walk went above the root at some point, and not only that it ended
there. What `clean?` gives are therefore the names taken by the walks that stay
inside and lead somewhere (`clean?_of_walk?`, `clean?_eq_none_of_walk?`).

A walk goes on from where the directory part of a path has led, so the clean
form of what stands behind a directory depends on that place only
(`IsFront.clean?_append`).

Consumed by the theory of script imports.
-/
import SourceAtlas.Proofs.Path.Clean
import SourceAtlas.Proofs.Path.Normal

namespace SourceAtlas.Path

variable {p q t part name front : Text} {parts stack next : List Text}

-- ============================================================= the walk

/-- One component of a walk that has taken the names on the stack, latest
first. A `..` takes back a name, and at the root there is none. -/
def step? (stack : List Text) (part : Text) : Option (List Text) :=
  if part = [] || part = ['.'] then some stack
  else if part = ['.', '.'] then stack.tail?
  else some (part :: stack)

/-- The names taken after some more components, if the walk never goes above
the root. -/
def walk? (stack parts : List Text) : Option (List Text) :=
  parts.foldlM step? stack

theorem walk?_cons (stack : List Text) (part : Text) (parts : List Text) :
    walk? stack (part :: parts) = (step? stack part).bind (walk? · parts) :=
  List.foldlM_cons

/-- A walk along two lists goes along the first, then along the second. -/
theorem walk?_append (stack parts more : List Text) :
    walk? stack (parts ++ more) = (walk? stack parts).bind (walk? · more) :=
  List.foldlM_append

/-- A component goes nowhere, takes a name back, or is a name and goes there. -/
theorem step?_cases (stack : List Text) (part : Text) :
    ((part = [] ∨ part = ['.']) ∧ step? stack part = some stack)
      ∨ (part = ['.', '.'] ∧ step? stack part = stack.tail?)
      ∨ (part ≠ [] ∧ part ≠ ['.'] ∧ part ≠ ['.', '.']
          ∧ step? stack part = some (part :: stack)) := by
  unfold step?
  by_cases hskip : part = [] ∨ part = ['.']
  · exact .inl ⟨hskip, if_pos (by simpa using hskip)⟩
  · obtain ⟨hnil, hdot⟩ := not_or.mp hskip
    rw [if_neg (by simpa using hskip)]
    by_cases hup : part = ['.', '.']
    · exact .inr (.inl ⟨hup, if_pos hup⟩)
    · exact .inr (.inr ⟨hnil, hdot, hup, if_neg hup⟩)

/-- Only a double dot at the root goes above it. -/
theorem step?_eq_none_iff :
    step? stack part = none ↔ part = ['.', '.'] ∧ stack = [] := by
  rcases step?_cases stack part with ⟨hskip, hstep⟩ | ⟨rfl, hstep⟩
    | ⟨-, -, hup, hstep⟩
  · rw [hstep]
    rcases hskip with rfl | rfl
    · simp
    · simp
  · rw [hstep]
    cases stack with
    | nil => simp
    | cons top below => simp
  · rw [hstep]
    simp [hup]

theorem step?_of_isName (stack : List Text) (h : IsName part) :
    step? stack part = some (part :: stack) := by
  obtain ⟨hnil, hdot, hup, -⟩ := h
  unfold step?
  rw [if_neg (by simp [hnil, hdot]), if_neg hup]

/-- Names are taken one after the other. -/
theorem walk?_names (stack : List Text) {names : List Text}
    (h : ∀ name ∈ names, IsName name) :
    walk? stack names = some (names.reverse ++ stack) := by
  induction names generalizing stack with
  | nil => rfl
  | cons name rest ih =>
      obtain ⟨hname, hrest⟩ := List.forall_mem_cons.mp h
      rw [walk?_cons, step?_of_isName stack hname, Option.bind_some, ih _ hrest]
      simp

/-- What a walk has taken are names. -/
theorem isName_of_step? (hpart : '/' ∉ part)
    (hstack : ∀ name ∈ stack, IsName name) (h : step? stack part = some next) :
    ∀ name ∈ next, IsName name := by
  rcases step?_cases stack part with ⟨-, hstep⟩ | ⟨-, hstep⟩
    | ⟨hnil, hdot, hup, hstep⟩
  · rw [hstep] at h
    injection h with h
    subst h
    exact hstack
  · rw [hstep] at h
    cases stack with
    | nil => cases h
    | cons top below =>
        injection h with h
        subst h
        exact (List.forall_mem_cons.mp hstack).2
  · rw [hstep] at h
    injection h with h
    subst h
    exact List.forall_mem_cons.mpr ⟨⟨hnil, hdot, hup, hpart⟩, hstack⟩

/-- A walk that starts at names ends at names. -/
theorem isName_of_walk? (hparts : ∀ part ∈ parts, '/' ∉ part)
    (hstack : ∀ name ∈ stack, IsName name) (h : walk? stack parts = some next) :
    ∀ name ∈ next, IsName name := by
  induction parts generalizing stack with
  | nil =>
      injection h with h
      subst h
      exact hstack
  | cons part parts ih =>
      obtain ⟨hpart, hparts⟩ := List.forall_mem_cons.mp hparts
      rw [walk?_cons] at h
      obtain ⟨between, hstep, hrest⟩ := Option.bind_eq_some_iff.mp h
      exact ih hparts (isName_of_step? hpart hstack hstep) hrest

-- ================================================= walk and normal form

/-- As long as the walk stays inside, the stack of the normal form is what it
has taken. -/
theorem pushComponent_of_step? (hstack : ∀ name ∈ stack, IsName name)
    (h : step? stack part = some next) :
    pushComponent false stack part = next := by
  rcases step?_cases stack part with ⟨hskip, hstep⟩ | ⟨hup, hstep⟩
    | ⟨hnil, hdot, hup, hstep⟩
  · rw [hstep] at h
    injection h with h
    unfold pushComponent
    rw [if_pos (by simpa using hskip), h]
  · rw [hstep] at h
    subst hup
    cases stack with
    | nil => cases h
    | cons top below =>
        have htop : top ≠ ['.', '.'] := (hstack top List.mem_cons_self).2.2.1
        injection h with h
        simp [pushComponent, htop, h]
  · rw [hstep] at h
    injection h with h
    unfold pushComponent
    rw [if_neg (by simp [hnil, hdot]), if_neg hup, h]

/-- Where a walk does not leave the root, the stack of components goes along
with it. -/
theorem foldl_pushComponent_of_walk? (hparts : ∀ part ∈ parts, '/' ∉ part)
    (hstack : ∀ name ∈ stack, IsName name) (h : walk? stack parts = some next) :
    parts.foldl (pushComponent false) stack = next := by
  induction parts generalizing stack with
  | nil =>
      injection h
  | cons part parts ih =>
      obtain ⟨hpart, hparts⟩ := List.forall_mem_cons.mp hparts
      rw [walk?_cons] at h
      obtain ⟨between, hstep, hrest⟩ := Option.bind_eq_some_iff.mp h
      rw [List.foldl_cons, pushComponent_of_step? hstack hstep]
      exact ih hparts (isName_of_step? hpart hstack hstep) hrest

/-- A double dot at the bottom of the stack stays there. -/
theorem exists_pushComponent_of_climbed (above : List Text) (part : Text) :
    ∃ above', pushComponent false (above ++ [['.', '.']]) part
      = above' ++ [['.', '.']] := by
  unfold pushComponent
  split
  case isTrue => exact ⟨above, rfl⟩
  case isFalse =>
    split
    case isTrue hup =>
      cases above with
      | nil => exact ⟨[part], by simp⟩
      | cons top below =>
          by_cases htop : top = ['.', '.']
          · exact ⟨part :: top :: below, by simp [htop]⟩
          · exact ⟨below, by simp [htop]⟩
    case isFalse => exact ⟨part :: above, rfl⟩

/-- Once a path has climbed out of its root, no component brings it back. -/
theorem exists_foldl_of_climbed (above parts : List Text) :
    ∃ above', parts.foldl (pushComponent false) (above ++ [['.', '.']])
      = above' ++ [['.', '.']] := by
  induction parts generalizing above with
  | nil => exact ⟨above, rfl⟩
  | cons part parts ih =>
      obtain ⟨above', hpush⟩ := exists_pushComponent_of_climbed above part
      rw [List.foldl_cons, hpush]
      exact ih above'

/-- A walk that goes above the root leaves a double dot at the bottom of the
stack. -/
theorem exists_foldl_of_walk?_eq_none (hparts : ∀ part ∈ parts, '/' ∉ part)
    (hstack : ∀ name ∈ stack, IsName name) (h : walk? stack parts = none) :
    ∃ above, parts.foldl (pushComponent false) stack
      = above ++ [['.', '.']] := by
  induction parts generalizing stack with
  | nil => cases h
  | cons part parts ih =>
      obtain ⟨hpart, hparts⟩ := List.forall_mem_cons.mp hparts
      rw [List.foldl_cons]
      cases hstep : step? stack part with
      | none =>
          obtain ⟨rfl, rfl⟩ := step?_eq_none_iff.mp hstep
          exact exists_foldl_of_climbed [] parts
      | some next =>
          rw [walk?_cons, hstep, Option.bind_some] at h
          rw [pushComponent_of_step? hstack hstep]
          exact ih hparts (isName_of_step? hpart hstack hstep) h

-- ========================================================== clean paths

/-- A path that leaves the root has no clean form. -/
theorem clean?_eq_none_of_walk? (hrelative : ¬ ['/'] <+: p)
    (h : walk? [] (components p) = none) : clean? p = none := by
  obtain ⟨above, hstack⟩ :=
    exists_foldl_of_walk?_eq_none (fun _ hm => not_mem_of_mem_components hm)
      (List.forall_mem_nil _) h
  have hnormal : normal p = Text.join ['/'] (['.', '.'] :: above.reverse) := by
    rw [normal_of_relative hrelative, hstack, List.reverse_append]
    refine if_neg ?_
    cases above.reverse with
    | nil => decide
    | cons next rest => simp [Text.join]
  rw [Option.eq_none_iff_forall_ne_some]
  intro q hq
  obtain ⟨-, -, rfl, -, hup, hclimb⟩ := clean?_eq_some_iff.mp hq
  rw [hnormal] at hup hclimb
  rcases join_climb above.reverse with hjoin | hjoin
  · exact hup hjoin
  · exact hclimb hjoin

/-- A path that stays inside has the place where its walk ends as its clean
form, unless that is the root. -/
theorem clean?_of_walk? (hne : p ≠ []) (hrelative : ¬ ['/'] <+: p)
    (h : walk? [] (components p) = some stack) :
    clean? p = if stack.isEmpty then none
      else some (Text.join ['/'] stack.reverse) := by
  have hparts : ∀ part ∈ components p, '/' ∉ part :=
      fun _ hm => not_mem_of_mem_components hm
  have hnames := isName_of_walk? hparts (List.forall_mem_nil _) h
  have hnormal := normal_of_relative hrelative
  rw [foldl_pushComponent_of_walk? hparts (List.forall_mem_nil _) h] at hnormal
  cases stack with
  | nil =>
      rw [List.isEmpty_nil, if_pos rfl, Option.eq_none_iff_forall_ne_some]
      intro q hq
      obtain ⟨-, -, rfl, hdot, -⟩ := clean?_eq_some_iff.mp hq
      exact hdot hnormal
  | cons top below =>
      have hclean : IsClean (Text.join ['/'] (top :: below).reverse) :=
        isClean_join (by simp) fun name hname =>
          hnames name (List.mem_reverse.mp hname)
      rw [if_neg (by simpa using hclean.ne_nil)] at hnormal
      -- what a clean path is refused for is what any normal form is refused for
      obtain ⟨-, -, -, hself⟩ :=
        clean?_eq_some_iff.mp (clean?_of_isClean hclean)
      exact clean?_eq_some_iff.mpr ⟨hne, hrelative, hnormal.symm, hself⟩

/-- A name is a clean path. -/
theorem IsName.isClean (h : IsName name) : IsClean name := by
  show IsClean (Text.join ['/'] [name])
  exact isClean_join (List.cons_ne_nil name []) (by simpa using h)

-- ===================================================== behind a directory

/-- What a name can be put behind: nothing, or a path that ends in a slash. -/
def IsFront (front : Text) : Prop := front = [] ∨ ['/'] <:+ front

/-- A path is its last component behind a front. -/
theorem exists_front (p : Text) :
    ∃ front, IsFront front ∧ p = front ++ base p := by
  unfold base Text.afterLast
  cases hcut : Text.cutLast? ['/'] p with
  | none => exact ⟨[], .inl rfl, rfl⟩
  | some cut =>
      obtain ⟨up, name⟩ := cut
      obtain ⟨hp, -⟩ := Text.eq_append_of_cutLast? hcut
      exact ⟨up ++ ['/'], .inr (List.suffix_append _ _), by simpa using hp⟩

/-- The last component holds no slash. -/
theorem slash_not_mem_base (p : Text) : '/' ∉ base p := by
  obtain ⟨up, hup⟩ := exists_components_eq_concat_base p
  have hmem : base p ∈ components p := by
    rw [hup]
    exact List.mem_append_right up List.mem_cons_self
  exact not_mem_of_mem_components hmem

/-- A name behind a front is the last component. -/
theorem IsFront.base_append (h : IsFront front) (hname : '/' ∉ name) :
    base (front ++ name) = name := by
  unfold base Text.afterLast
  rcases h with rfl | ⟨up, rfl⟩
  · rw [List.nil_append, Text.cutLast?_eq_none_iff.mpr hname]
    rfl
  · rw [List.append_assoc, List.singleton_append, Text.cutLast?_append up hname]
    rfl

/-- A walk goes on from where the front has led. -/
theorem IsFront.walk?_append (h : IsFront front) (t : Text) :
    walk? [] (components (front ++ t))
      = (walk? [] (components front)).bind (walk? · (components t)) := by
  rcases h with rfl | ⟨up, rfl⟩
  · rfl
  · rw [List.append_assoc, List.singleton_append, components_append_slash,
      components_append_slash, Path.walk?_append, Path.walk?_append,
      Option.bind_assoc]
    rfl

/-- The directories above a name lead where its front leads. -/
theorem IsFront.walk?_dropLast (h : IsFront front) (hname : '/' ∉ name) :
    walk? [] (components (front ++ name)).dropLast
      = walk? [] (components front) := by
  have hone : components name = [name] := Text.split_of_not_mem hname
  rcases h with rfl | ⟨up, rfl⟩
  · rw [List.nil_append, hone]
    rfl
  · rw [List.append_assoc, List.singleton_append, components_append_slash, hone,
      List.dropLast_concat, components_append_slash, Path.walk?_append]
    cases walk? [] (components up) with
    | none => rfl
    | some stack => rfl

/-- Where a front leads: the names taken on the way, if it is relative and the
walk stays inside. -/
def reached? (front : Text) : Option (List Text) :=
  if ['/'].isPrefixOf front then none else walk? [] (components front)

/-- What a front reaches is a list of names. -/
theorem isName_of_reached? (h : reached? front = some stack) :
    ∀ name ∈ stack, IsName name := by
  unfold reached? at h
  obtain ⟨-, hwalk⟩ := Option.ite_none_left_eq_some.mp h
  exact isName_of_walk? (fun _ hm => not_mem_of_mem_components hm)
    (List.forall_mem_nil _) hwalk

/-- The clean form of a clean path behind a front depends on where the front
leads only. -/
theorem IsFront.clean?_append (h : IsFront front) (ht : IsClean t) :
    clean? (front ++ t)
      = (reached? front).map fun stack =>
        Text.join ['/'] (stack.reverse ++ components t) := by
  have hne : front ++ t ≠ [] :=
    List.append_ne_nil_of_right_ne_nil front ht.ne_nil
  unfold reached?
  split
  case isTrue habsolute =>
    have habsolute :=
      (List.isPrefixOf_iff_prefix.mp habsolute).trans
        (List.prefix_append front t)
    rw [Option.map_none, Option.eq_none_iff_forall_ne_some]
    intro q hq
    exact (clean?_eq_some_iff.mp hq).2.1 habsolute
  case isFalse hfront =>
    have hrelative : ¬ ['/'] <+: front ++ t := by
      cases front with
      | nil => exact ht.relative
      | cons c more => simpa using hfront
    -- The walk over both is the walk over the front and then over names, which
    -- only push.
    have hwalk := h.walk?_append t
    cases hreached : walk? [] (components front) with
    | none =>
        rw [hreached] at hwalk
        exact clean?_eq_none_of_walk? hrelative hwalk
    | some stack =>
        have hnames := walk?_names stack fun _ hm => ht.isName hm
        rw [hreached, Option.bind_some, hnames] at hwalk
        rw [clean?_of_walk? hne hrelative hwalk, if_neg]
        · simp
        · have hparts : components t ≠ [] := Text.split_ne_nil '/' t
          simpa using fun hnil => absurd hnil hparts

/-- Fronts that lead to one clean form with something behind them lead to the
same place. -/
theorem reached?_eq_of_clean?_eq {front' : Text} (h : IsFront front)
    (h' : IsFront front') (ht : IsClean t)
    (heq : clean? (front ++ t) = clean? (front' ++ t)) :
    reached? front = reached? front' := by
  rw [h.clean?_append ht, h'.clean?_append ht] at heq
  cases hreached : reached? front with
  | none =>
      rw [hreached] at heq
      exact (Option.map_eq_none_iff.mp heq.symm).symm
  | some stack =>
      rw [hreached, Option.map_some] at heq
      obtain ⟨stack', hreached', hjoin⟩ := Option.map_eq_some_iff.mp heq.symm
      have hnames {below : List Text} (hbelow : ∀ name ∈ below, IsName name) :
          ∀ name ∈ below.reverse ++ components t, IsName name := by
        intro name hname
        rcases List.mem_append.mp hname with hname | hname
        · exact hbelow name (List.mem_reverse.mp hname)
        · exact ht.isName hname
      have hne (below : List Text) : below.reverse ++ components t ≠ [] :=
        List.append_ne_nil_of_right_ne_nil _ (Text.split_ne_nil '/' t)
      have hparts := congrArg components hjoin
      rw [components_join_names (hne _) (hnames (isName_of_reached? hreached')),
        components_join_names (hne _) (hnames (isName_of_reached? hreached))]
        at hparts
      rw [hreached', List.reverse_inj.mp (List.append_cancel_right hparts)]

/-- Behind a front that goes above the root nothing is inside. -/
theorem IsFront.clean?_append_of_climbing (h : IsFront front)
    (hclimb : walk? [] (components front) = none) (t : Text) :
    clean? (front ++ t) = none := by
  rw [Option.eq_none_iff_forall_ne_some]
  intro q hq
  obtain ⟨-, hrelative, -⟩ := clean?_eq_some_iff.mp hq
  have hwalk := h.walk?_append t
  rw [hclimb, Option.bind_none] at hwalk
  rw [clean?_eq_none_of_walk? hrelative hwalk] at hq
  cases hq

-- ====================================================== lexical containment

/-- Containment is lexical: a path has a clean form if and only if it is
relative, not empty, and its walk never goes above the root and ends away from
it. The clean form is made of the names that the walk has taken, so it has
ordinary components only and is its own clean form. -/
theorem clean_form_is_the_walk (p q : Text) :
    (clean? p = some q ↔ p ≠ [] ∧ ¬ ['/'] <+: p
      ∧ ∃ stack, walk? [] (components p) = some stack ∧ stack ≠ []
        ∧ q = Text.join ['/'] stack.reverse)
    ∧ (clean? p = some q →
      (∀ part ∈ components q, part ≠ [] ∧ part ≠ ['.'] ∧ part ≠ ['.', '.'])
      ∧ clean? q = some q) := by
  refine ⟨⟨?_, ?_⟩, ?_⟩
  · intro h
    obtain ⟨hne, hrelative, -⟩ := clean?_eq_some_iff.mp h
    refine ⟨hne, hrelative, ?_⟩
    cases hwalk : walk? [] (components p) with
    | none =>
        rw [clean?_eq_none_of_walk? hrelative hwalk] at h
        cases h
    | some stack =>
        rw [clean?_of_walk? hne hrelative hwalk] at h
        obtain ⟨hstack, h⟩ := Option.ite_none_left_eq_some.mp h
        injection h with h
        exact ⟨stack, rfl, by simpa using hstack, h.symm⟩
  · rintro ⟨hne, hrelative, stack, hwalk, hstack, rfl⟩
    rw [clean?_of_walk? hne hrelative hwalk, if_neg (by simpa using hstack)]
  · intro h
    have hclean := isClean_of_clean? h
    exact ⟨hclean.ordinary, clean?_of_isClean hclean⟩

/-- Names that only start with dots are taken and taken back like any others,
and a walk that comes back to the root and leaves it again stays inside. -/
theorem clean_form_is_the_walk_dotted :
    walk? [] (components "...//./..a/../../x/./..b/.c".toList)
        = some [".c".toList, "..b".toList, "x".toList]
      ∧ clean? "...//./..a/../../x/./..b/.c".toList = some "x/..b/.c".toList
      ∧ (∀ part ∈ components "x/..b/.c".toList, part ≠ [] ∧ part ≠ ['.']
        ∧ part ≠ ['.', '.'])
      ∧ clean? "x/..b/.c".toList = some "x/..b/.c".toList := by
  have hwalk : walk? [] (components "...//./..a/../../x/./..b/.c".toList)
      = some [".c".toList, "..b".toList, "x".toList] := by decide
  obtain ⟨hiff, hthen⟩ :=
    clean_form_is_the_walk "...//./..a/../../x/./..b/.c".toList
      "x/..b/.c".toList
  have hclean := hiff.mpr ⟨by decide, by decide, _, hwalk, by decide, by decide⟩
  exact ⟨hwalk, hclean, hthen hclean⟩

end SourceAtlas.Path
