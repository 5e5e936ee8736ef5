/-
A path and its components: the text is its components with slashes between
them, and the directories above its last component are told apart by what
leads to them. What names an entry of a directory is a component without
slash that is neither empty nor a dot nor a double dot.

Consumed by the theories of clean paths, of file trees and of the survey,
which reason about lists of components and never about the text, and by those
of concepts and of routing directories, which look for marks in the text.
-/
import SourceAtlas.Path
import SourceAtlas.Proofs.Text.Split

namespace SourceAtlas.Path

-- ============================================================ components

/-- A path is its components with slashes between them. -/
theorem join_components (p : Text) : Text.join ['/'] (components p) = p :=
  Text.join_split '/' p

/-- The components of joined parts are the parts. -/
theorem components_join {parts : List Text} (hne : parts ≠ [])
    (h : ∀ part ∈ parts, '/' ∉ part) :
    components (Text.join ['/'] parts) = parts :=
  Text.split_join hne h

/-- No component holds a slash. -/
theorem not_mem_of_mem_components {p part : Text} (h : part ∈ components p) :
    '/' ∉ part :=
  Text.not_mem_of_mem_split h

/-- The last component is the base name. -/
theorem exists_components_eq_concat_base (p : Text) :
    ∃ up, components p = up ++ [base p] := by
  unfold components base Text.afterLast
  cases hcut : Text.cutLast? ['/'] p with
  | none =>
      rw [Text.split_of_not_mem (Text.cutLast?_eq_none_iff.mp hcut)]
      exact ⟨[], rfl⟩
  | some cut =>
      obtain ⟨before, after⟩ := cut
      obtain ⟨hp, hafter⟩ := Text.eq_append_of_cutLast? hcut
      refine ⟨Text.split '/' before, ?_⟩
      rw [hp, Text.split_append_cons, Text.split_of_not_mem hafter]
      rfl

-- =============================================================== parts

/-- What stands before the extension starts the path. -/
theorem isPrefix_splitExtension_fst (p : Text) :
    (splitExtension p).1 <+: p := by
  simp only [splitExtension]
  split
  case h_1 =>
    split
    case isTrue => exact List.take_prefix _ _
    case isFalse => exact List.prefix_rfl
  case h_2 => exact List.prefix_rfl

/-- The last component is part of the path. -/
theorem mem_of_mem_base {p : Text} {c : Char} (h : c ∈ base p) : c ∈ p := by
  obtain ⟨up, hup⟩ := exists_components_eq_concat_base p
  have hpart : base p ∈ components p :=
    hup ▸ List.mem_append_right up List.mem_cons_self
  exact (Text.isInfix_of_mem_split hpart).subset h

theorem mem_of_mem_stem {p : Text} {c : Char} (h : c ∈ stem p) : c ∈ p :=
  mem_of_mem_base ((isPrefix_splitExtension_fst (base p)).subset h)

/-- The directory is part of the path, up to a slash for the top. -/
theorem mem_of_mem_directory {p : Text} {c : Char} (h : c ∈ directory p) :
    c = '/' ∨ c ∈ p := by
  unfold directory at h
  split at h
  case h_1 => cases h
  case h_2 head last hcut =>
    obtain ⟨rfl, -⟩ := Text.eq_append_of_cutLast? hcut
    split at h
    case isTrue =>
      rcases List.mem_append.mp h with h | h
      · exact .inr (List.mem_append_left _ h)
      · exact .inl (List.mem_singleton.mp h)
    case isFalse =>
        exact .inr (List.mem_append_left _
          ((Text.isPrefix_trimEnd _ head).subset h))

-- ============================================================ ancestors

/-- The directory called `name` in `up` lies above the last of some
components. -/
def Above (parts up : List Text) (name : Text) : Prop :=
  ∃ below, below ≠ [] ∧ parts = up ++ name :: below

/-- Nothing lies above a single component. -/
theorem not_above_singleton {part name : Text} {up : List Text} :
    ¬ Above [part] up name := by
  intro h
  obtain ⟨below, hne, h⟩ := h
  have hlen := congrArg List.length h
  have hpos : 0 < below.length := List.length_pos_iff.mpr hne
  simp only [List.length_append, List.length_cons, List.length_nil] at hlen
  omega

/-- Above the last of several components lies the first one, and whatever
lies above it from there on. -/
theorem above_cons_iff {part name : Text} {rest up : List Text}
    (hrest : rest ≠ []) :
    Above (part :: rest) up name ↔
      (up = [] ∧ name = part)
        ∨ ∃ more, up = part :: more ∧ Above rest more name := by
  constructor
  · intro h
    obtain ⟨below, hne, h⟩ := h
    cases up with
    | nil =>
        rw [List.nil_append, List.cons.injEq] at h
        exact Or.inl ⟨rfl, h.1.symm⟩
    | cons first more =>
        rw [List.cons_append, List.cons.injEq] at h
        exact Or.inr ⟨more, by rw [h.1], below, hne, h.2⟩
  · intro h
    rcases h with ⟨rfl, rfl⟩ | ⟨more, rfl, below, hne, rfl⟩
    · exact ⟨rest, hrest, rfl⟩
    · exact ⟨below, hne, rfl⟩

-- ================================================================= names

/-- What can name an entry of a directory. -/
def IsName (part : Text) : Prop :=
  part ≠ [] ∧ part ≠ ['.'] ∧ part ≠ ['.', '.'] ∧ '/' ∉ part

instance (part : Text) : Decidable (IsName part) :=
  inferInstanceAs (Decidable (_ ∧ _ ∧ _ ∧ _))

theorem IsName.ne_nil {part : Text} (h : IsName part) : part ≠ [] := h.1

theorem IsName.slash_not_mem {part : Text} (h : IsName part) : '/' ∉ part :=
  h.2.2.2

/-- A text without slash that is longer than `..` is a name. -/
theorem isName_of_length {part : Text} (hlong : 2 < part.length)
    (hslash : '/' ∉ part) : IsName part := by
  refine ⟨?_, ?_, ?_, hslash⟩
  · rintro rfl
    exact absurd hlong (by decide)
  · rintro rfl
    exact absurd hlong (by decide)
  · rintro rfl
    exact absurd hlong (by decide)

/-- The components of joined names are the names. -/
theorem components_join_names {names : List Text} (hne : names ≠ [])
    (h : ∀ name ∈ names, IsName name) :
    components (Text.join ['/'] names) = names :=
  components_join hne fun name hn => (h name hn).slash_not_mem

end SourceAtlas.Path
