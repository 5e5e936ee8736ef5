/-
What stands behind a directory does not depend on how the directory is
spelled. A normal form is made of two things, the slashes that the path starts
with and the stack of components that remain, and both can be read off the
directory before the rest is known:

- the stack of a path goes on from the stack of its directory
  (`stack_append_slash`), and the normal form of a directory has the same stack
  (`stack_normal`), because nothing on a stack is ever taken back by what lies
  above it (`Kept`);
- the slashes in front stay the same behind any character that is no slash
  (`leadingSlashes_append`).

So a directory may be put in normal form first (`normal_append_of_same`), with
two exceptions: the root, to which a further slash adds one in front, and the
directory `.`, in front of a rest that starts with a slash itself.

Consumed by the theory of path aliases.
-/
import SourceAtlas.Proofs.Path.Components

namespace SourceAtlas.Path

variable {p q r u part : Text} {parts below : List Text} {absolute : Bool}
  {n : Nat}

-- =========================================================== joining

/-- What is joined comes last. -/
theorem exists_join_eq (base u : Text) : ∃ front, join base u = front ++ u := by
  unfold join
  split
  · exact ⟨[], rfl⟩
  · split
    · exact ⟨base, rfl⟩
    · exact ⟨base ++ ['/'], by simp⟩

/-- Joining looks at the start of a path only. -/
theorem join_append (hu : u ≠ []) (base v : Text) :
    join base (u ++ v) = join base u ++ v := by
  obtain ⟨c, more, rfl⟩ := List.exists_cons_of_ne_nil hu
  unfold join
  have hsame : ['/'].isPrefixOf (c :: more ++ v)
      = ['/'].isPrefixOf (c :: more) := rfl
  rw [hsame]
  split
  · rfl
  · split
    · simp
    · simp

-- ============================================================ the stack

/-- The components of a path that remain, latest first. -/
def stack (absolute : Bool) (p : Text) : List Text :=
  (components p).foldl (pushComponent absolute) []

/-- The path with some slashes in front and some components behind them. -/
def ofStack (slashes : Nat) (below : List Text) : Text :=
  let out := List.replicate slashes '/' ++ Text.join ['/'] below.reverse
  if out.isEmpty then ['.'] else out

/-- A normal form is made of the slashes in front and of the stack. -/
theorem normal_eq (p : Text) :
    normal p = ofStack (leadingSlashes p) (stack (leadingSlashes p != 0) p) :=
  rfl

/-- Components of a path are those of its directory, then those of the rest. -/
theorem components_append_slash (p r : Text) :
    components (p ++ '/' :: r) = components p ++ components r :=
  Text.split_append_cons '/' p r

/-- The stack of a path goes on from that of its directory. -/
theorem stack_append_slash (absolute : Bool) (p r : Text) :
    stack absolute (p ++ '/' :: r)
      = (components r).foldl (pushComponent absolute) (stack absolute p) := by
  unfold stack
  rw [components_append_slash, List.foldl_append]

/-- A component changes nothing, is put on top, or takes the topmost back. -/
theorem pushComponent_cases (absolute : Bool) (below : List Text)
    (part : Text) :
    pushComponent absolute below part = below
      ∨ pushComponent absolute below part = part :: below
      ∨ ∃ top, below = top :: pushComponent absolute below part := by
  by_cases hskip : (part = [] || part = ['.']) = true
  · exact .inl (if_pos hskip)
  · unfold pushComponent
    rw [if_neg hskip]
    by_cases hup : part = ['.', '.']
    · rw [if_pos hup]
      cases below with
      | nil =>
          cases absolute with
          | false => exact .inr (.inl rfl)
          | true => exact .inl rfl
      | cons top more =>
          by_cases htop : top = ['.', '.']
          · exact .inr (.inl (if_pos htop))
          · exact .inr (.inr ⟨top, congrArg (top :: ·) (if_neg htop).symm⟩)
    · exact .inr (.inl (if_neg hup))

/-- Each component stays on top of those below it. -/
inductive Kept (absolute : Bool) : List Text → Prop where
  | nil : Kept absolute []
  | cons {part : Text} {below : List Text} (h : Kept absolute below)
      (hpart : pushComponent absolute below part = part :: below) :
      Kept absolute (part :: below)

/-- A component that remains is never taken back by the next one. -/
theorem Kept.push (h : Kept absolute below) (part : Text) :
    Kept absolute (pushComponent absolute below part) := by
  rcases pushComponent_cases absolute below part with hsame | hpush
    | ⟨top, htop⟩
  · rw [hsame]
    exact h
  · rw [hpush]
    exact .cons h hpush
  · rw [htop] at h
    cases h with
    | cons hbelow => exact hbelow

theorem Kept.foldl (h : Kept absolute below) :
    Kept absolute (parts.foldl (pushComponent absolute) below) := by
  induction parts generalizing below with
  | nil => exact h
  | cons part parts ih => exact ih (h.push part)

theorem kept_stack (absolute : Bool) (p : Text) :
    Kept absolute (stack absolute p) :=
  Kept.foldl .nil

/-- What is kept is built up again from its components. -/
theorem Kept.foldl_reverse (h : Kept absolute below) :
    below.reverse.foldl (pushComponent absolute) [] = below := by
  induction h with
  | nil => rfl
  | cons h hpart ih =>
      rw [List.reverse_cons, List.foldl_append, ih, List.foldl_cons, hpart,
        List.foldl_nil]

/-- Empty components and `.` are not kept. -/
theorem Kept.ne (h : Kept absolute below) :
    ∀ part ∈ below, part ≠ [] ∧ part ≠ ['.'] := by
  induction h with
  | nil => simp
  | @cons part below h hpart ih =>
      rw [List.forall_mem_cons]
      refine ⟨⟨?_, ?_⟩, ih⟩
      · rintro rfl
        exact absurd hpart (List.cons_ne_self _ _).symm
      · rintro rfl
        exact absurd hpart (List.cons_ne_self _ _).symm

/-- Nothing gets onto a stack but components. -/
theorem mem_of_mem_foldl
    (h : part ∈ parts.foldl (pushComponent absolute) below) :
    part ∈ parts ∨ part ∈ below := by
  induction parts generalizing below with
  | nil => exact .inr h
  | cons first parts ih =>
      rw [List.mem_cons]
      rcases ih h with h | h
      · exact .inl (.inr h)
      · rcases pushComponent_cases absolute below first with hsame | hpush
          | ⟨top, htop⟩
        · rw [hsame] at h
          exact .inr h
        · rw [hpush] at h
          rcases List.mem_cons.mp h with h | h
          · exact .inl (.inl h)
          · exact .inr h
        · rw [htop]
          exact .inr (List.mem_cons_of_mem _ h)

/-- What remains of a path are components of it. -/
theorem mem_components_of_mem_stack (h : part ∈ stack absolute p) :
    part ∈ components p := by
  rcases mem_of_mem_foldl h with h | h
  · exact h
  · cases h

/-- No component on a stack holds a slash. -/
theorem not_mem_of_mem_stack (h : part ∈ stack absolute p) : '/' ∉ part :=
  not_mem_of_mem_components (mem_components_of_mem_stack h)

/-- Where a component remains, there is something besides slashes. -/
theorem exists_ne_slash (h : stack absolute p ≠ []) : ∃ c ∈ p, c ≠ '/' := by
  obtain ⟨part, below, hstack⟩ := List.exists_cons_of_ne_nil h
  have hmem : part ∈ stack absolute p := by
    rw [hstack]
    exact List.mem_cons_self
  obtain ⟨c, more, rfl⟩ :=
    List.exists_cons_of_ne_nil ((kept_stack absolute p).ne part hmem).1
  have hinfix := Text.isInfix_of_mem_split (mem_components_of_mem_stack hmem)
  refine ⟨c, hinfix.subset List.mem_cons_self, ?_⟩
  rintro rfl
  exact not_mem_of_mem_stack hmem List.mem_cons_self

-- =============================================== slashes in front

theorem leadingSlashes_le (p : Text) : leadingSlashes p ≤ 2 := by
  unfold leadingSlashes
  split
  all_goals decide

/-- A path that is not slashes only has a first character after them. -/
theorem exists_slashes (h : ∃ c ∈ p, c ≠ '/') :
    ∃ n c more, p = List.replicate n '/' ++ c :: more ∧ c ≠ '/' := by
  induction p with
  | nil =>
      obtain ⟨c, hc, -⟩ := h
      cases hc
  | cons d p ih =>
      by_cases hd : d = '/'
      · subst hd
        have htail : ∃ c ∈ p, c ≠ '/' := by simpa using h
        obtain ⟨n, c, more, rfl, hc⟩ := ih htail
        exact ⟨n + 1, c, more, rfl, hc⟩
      · exact ⟨0, d, p, rfl, hd⟩

/-- Only the slashes before the first other character count. -/
theorem leadingSlashes_replicate {c : Char} (hc : c ≠ '/') (n : Nat)
    (more : Text) :
    leadingSlashes (List.replicate n '/' ++ c :: more) = if n ≤ 2 then n
      else 1 := by
  match n with
  | 0 => simp [leadingSlashes, hc]
  | 1 => simp [leadingSlashes, List.replicate, hc]
  | 2 => simp [leadingSlashes, List.replicate, hc]
  | n + 3 => simp [leadingSlashes, List.replicate]

/-- The slashes in front stay the same behind any character that is none. -/
theorem leadingSlashes_append (h : ∃ c ∈ p, c ≠ '/') (r : Text) :
    leadingSlashes (p ++ r) = leadingSlashes p := by
  obtain ⟨n, c, more, rfl, hc⟩ := exists_slashes h
  rw [List.append_assoc, List.cons_append, leadingSlashes_replicate hc,
    leadingSlashes_replicate hc]

/-- No slash counts exactly if none stands in front. -/
theorem leadingSlashes_eq_zero_iff :
    leadingSlashes p = 0 ↔ p.head? ≠ some '/' := by
  unfold leadingSlashes
  split
  case h_4 hnot =>
    refine iff_of_true rfl fun hslash => ?_
    obtain ⟨more, rfl⟩ := List.head?_eq_some_iff.mp hslash
    exact hnot more rfl
  all_goals simp

/-- Slashes in front leave the stack as it is. -/
theorem stack_replicate (absolute : Bool) (n : Nat) (p : Text) :
    stack absolute (List.replicate n '/' ++ p) = stack absolute p := by
  induction n with
  | zero => rfl
  | succ n ih =>
      have hempty := stack_append_slash absolute [] (List.replicate n '/' ++ p)
      rw [List.nil_append] at hempty
      rw [List.replicate_succ, List.cons_append, hempty]
      exact ih

-- ============================================ directories in normal form

/-- The stack of what a stack is written as is that stack. -/
theorem Kept.stack_ofStack (h : Kept absolute below)
    (hslash : ∀ part ∈ below, '/' ∉ part) (slashes : Nat) :
    stack absolute (ofStack slashes below) = below := by
  have hjoin : stack absolute (Text.join ['/'] below.reverse) = below := by
    cases hbelow : below.reverse with
    | nil =>
        rw [List.reverse_eq_nil_iff] at hbelow
        rw [hbelow]
        rfl
    | cons first more =>
        rw [← hbelow]
        unfold stack
        rw [components_join (by simp [hbelow])]
        · exact h.foldl_reverse
        · exact fun part hpart => hslash part (List.mem_reverse.mp hpart)
  unfold ofStack
  simp only
  split
  case isTrue hempty =>
    obtain ⟨-, hnil⟩ := List.append_eq_nil_iff.mp (List.isEmpty_iff.mp hempty)
    rw [hnil] at hjoin
    rw [← hjoin]
    rfl
  case isFalse =>
    rw [stack_replicate]
    exact hjoin

/-- A normal form has the same stack. -/
theorem stack_normal (p : Text) :
    stack (leadingSlashes p != 0) (normal p)
      = stack (leadingSlashes p != 0) p := by
  rw [normal_eq]
  exact (kept_stack _ p).stack_ofStack
    (fun part hpart => not_mem_of_mem_stack hpart) _

/-- The normal form of an empty stack is a dot or the slashes. -/
theorem ofStack_nil (hn : n ≤ 2) :
    ofStack n [] = ['.'] ∨ ofStack n [] = ['/']
      ∨ ofStack n [] = ['/', '/'] := by
  match n, hn with
  | 0, _ => exact .inl rfl
  | 1, _ => exact .inr (.inl rfl)
  | 2, _ => exact .inr (.inr rfl)

/-- A path that is more than a root keeps a component. -/
theorem stack_ne_nil (hdot : normal p ≠ ['.']) (hone : normal p ≠ ['/'])
    (htwo : normal p ≠ ['/', '/']) : stack (leadingSlashes p != 0) p ≠ [] := by
  intro hnil
  rw [normal_eq, hnil] at hdot hone htwo
  rcases ofStack_nil (leadingSlashes_le p) with h | h | h
  · exact hdot h
  · exact hone h
  · exact htwo h

/-- Joined names start with a character that is no slash. -/
theorem exists_join_cons (hne : parts ≠ [])
    (h : ∀ part ∈ parts, part ≠ [] ∧ '/' ∉ part) :
    ∃ c more, Text.join ['/'] parts = c :: more ∧ c ≠ '/' := by
  obtain ⟨first, parts, rfl⟩ := List.exists_cons_of_ne_nil hne
  obtain ⟨hfirst, hslash⟩ := h first List.mem_cons_self
  obtain ⟨c, rest, rfl⟩ := List.exists_cons_of_ne_nil hfirst
  have hc : c ≠ '/' := by
    rintro rfl
    exact hslash List.mem_cons_self
  cases parts with
  | nil => exact ⟨c, rest, rfl, hc⟩
  | cons next more => exact ⟨c, _, rfl, hc⟩

/-- The normal form has as many slashes in front, if anything follows them. -/
theorem leadingSlashes_normal (h : stack (leadingSlashes p != 0) p ≠ []) :
    leadingSlashes (normal p) = leadingSlashes p := by
  obtain ⟨c, more, hjoin, hc⟩ :=
    exists_join_cons (by simpa using h) fun part hpart =>
    have hmem := List.mem_reverse.mp hpart
    ⟨((kept_stack _ p).ne part hmem).1, not_mem_of_mem_stack hmem⟩
  have hnormal : normal p
      = List.replicate (leadingSlashes p) '/' ++ c :: more := by
    rw [normal_eq, ofStack, hjoin]
    simp
  rw [hnormal, leadingSlashes_replicate hc, if_pos (leadingSlashes_le p)]

/-- The directory `.` keeps nothing and is relative. -/
theorem normal_eq_dot (h : normal p = ['.']) :
    leadingSlashes p = 0 ∧ stack false p = [] := by
  have hstack : stack (leadingSlashes p != 0) p = [] := by
    rw [← stack_normal, h]
    rfl
  have hzero : leadingSlashes p = 0 := by
    have hle := leadingSlashes_le p
    rw [normal_eq, hstack] at h
    generalize leadingSlashes p = n at h hle
    match n, hle with
    | 0, _ => rfl
    | 1, _ => cases h
    | 2, _ => cases h
  rw [hzero] at hstack
  exact ⟨hzero, hstack⟩

/-- The normal form goes on from the slashes and the stack of the directory. -/
theorem normal_append_slash (h : ∃ c ∈ p, c ≠ '/') (r : Text) :
    normal (p ++ '/' :: r) = ofStack (leadingSlashes p)
      ((components r).foldl (pushComponent (leadingSlashes p != 0))
        (stack (leadingSlashes p != 0) p)) := by
  rw [normal_eq, leadingSlashes_append h, stack_append_slash]

-- ============================================== spellings of a directory

/-- The same directory, perhaps with a slash or `/.` behind it. -/
inductive SameDirectory (p : Text) : Text → Prop where
  | self : SameDirectory p p
  | slash : SameDirectory p (p ++ ['/'])
  | dot : SameDirectory p (p ++ ['/', '.'])

/-- Two spellings of a directory have one stack. -/
theorem SameDirectory.stack_eq (h : SameDirectory p q) (absolute : Bool) :
    stack absolute q = stack absolute p := by
  cases h with
  | self => rfl
  | slash => exact stack_append_slash absolute p []
  | dot => exact stack_append_slash absolute p ['.']

/-- Two spellings of a directory have the same slashes in front, unless it is
slashes only. -/
theorem SameDirectory.leadingSlashes_eq (h : SameDirectory p q)
    (hp : ∃ c ∈ p, c ≠ '/') : leadingSlashes q = leadingSlashes p := by
  cases h with
  | self => rfl
  | slash => exact leadingSlashes_append hp _
  | dot => exact leadingSlashes_append hp _

/-- A relative spelling is not slashes only. -/
theorem SameDirectory.exists_ne_slash (h : SameDirectory p q) (hq : q ≠ [])
    (hrelative : leadingSlashes q = 0) : ∃ c ∈ p, c ≠ '/' := by
  rw [leadingSlashes_eq_zero_iff] at hrelative
  cases p with
  | nil =>
      cases h with
      | self => exact absurd rfl hq
      | slash => exact absurd rfl hrelative
      | dot => exact absurd rfl hrelative
  | cons c more =>
      refine ⟨c, List.mem_cons_self, ?_⟩
      rintro rfl
      cases h with
      | self => exact hrelative rfl
      | slash => exact hrelative rfl
      | dot => exact hrelative rfl

/-- What stands behind a directory may stand behind its normal form. -/
theorem normal_append_of_same (h : SameDirectory p q) (hq : q ≠ [])
    (hone : normal q ≠ ['/']) (htwo : normal q ≠ ['/', '/'])
    (hrest : normal q = ['.'] → r.head? ≠ some '/') :
    normal ((if normal q = ['.'] then [] else normal q ++ ['/']) ++ r)
      = normal (p ++ '/' :: r) := by
  by_cases hdot : normal q = ['.']
  · obtain ⟨hzero, hstack⟩ := normal_eq_dot hdot
    have hp := h.exists_ne_slash hq hzero
    rw [h.leadingSlashes_eq hp] at hzero
    rw [h.stack_eq] at hstack
    have hr : normal r = ofStack 0 (stack false r) := by
      rw [normal_eq, leadingSlashes_eq_zero_iff.mpr (hrest hdot)]
      rfl
    rw [if_pos hdot, List.nil_append, normal_append_slash hp, hzero, hr]
    show _ = ofStack 0 ((components r).foldl (pushComponent false)
      (stack false p))
    rw [hstack]
    rfl
  · have hstack := stack_ne_nil hdot hone htwo
    have hnormal : ∃ c ∈ normal q, c ≠ '/' := by
      rw [← stack_normal] at hstack
      exact exists_ne_slash hstack
    have hslashes := leadingSlashes_normal hstack
    have hp : ∃ c ∈ p, c ≠ '/' := by
      rw [h.stack_eq] at hstack
      exact exists_ne_slash hstack
    rw [if_neg hdot, List.append_assoc, List.singleton_append,
      normal_append_slash hnormal, normal_append_slash hp, hslashes,
      stack_normal, h.stack_eq, h.leadingSlashes_eq hp]

end SourceAtlas.Path
