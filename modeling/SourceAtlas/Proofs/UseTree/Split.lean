/-
Cutting a use tree apart. Around its outer braces a tree falls into what
stands before them and what stands inside; the inside falls into pieces at
the commas that stand outside all braces.

The splitter carries the depth of braces along. What it takes up whole at
some depth `Passes` there: a text without signs at any depth, a comma below
the top, and a text in braces if the text passes one level deeper. So the
pieces between commas come back as they were put together as soon as each of
them passes at the top (`pieces_join`).

Consumed by the theories of the two readings of a use tree.
-/
import SourceAtlas.Proofs.Text.Split
import SourceAtlas.UseTree

namespace SourceAtlas.UseTree

variable {depth : Int} {t u : Text} {segments : List Text}

-- ===================================================== before and inside

/-- What stands before the first brace. -/
theorem head_append (hu : '\x7b' ∉ u) (t : Text) :
    head (u ++ '\x7b' :: t) = u := by
  unfold head
  rw [List.takeWhile_append_of_pos]
  · simp
  · intro c hc
    have hne : c ≠ '\x7b' := fun heq => hu (heq ▸ hc)
    simpa using hne

/-- What stands between the first brace and the last one. -/
theorem inside_append (hu : '\x7b' ∉ u) (t : Text) :
    inside (u ++ '\x7b' :: t ++ ['\x7d']) = t := by
  have hcut : Text.cutLast? ['\x7d'] (u ++ '\x7b' :: t ++ ['\x7d'])
      = some (u ++ '\x7b' :: t, []) :=
    Text.cutLast?_append _ List.not_mem_nil
  have hdrop : (u ++ '\x7b' :: t).dropWhile (· != '\x7b') = '\x7b' :: t := by
    rw [List.dropWhile_append_of_pos]
    · simp
    · intro c hc
      have hne : c ≠ '\x7b' := fun heq => hu (heq ▸ hc)
      simpa using hne
  unfold inside
  rw [hcut]
  show ((u ++ '\x7b' :: t).dropWhile (· != '\x7b')).drop 1 = t
  rw [hdrop]
  rfl

-- =============================================================== passing

/-- At this depth of braces the splitter takes the text up whole and comes
out at the same depth. -/
def Passes (depth : Int) (t : Text) : Prop :=
  ∀ current rest, pieces depth current (t ++ rest)
    = pieces depth (t.reverse ++ current) rest

/-- A character that is no sign of the splitter. -/
def IsPlain (c : Char) : Prop := c ≠ ',' ∧ c ≠ '\x7b' ∧ c ≠ '\x7d'

theorem passes_nil : Passes depth [] := fun _ _ => rfl

/-- Texts that are passed over one by one are passed over together. -/
theorem Passes.append (ht : Passes depth t) (hu : Passes depth u) :
    Passes depth (t ++ u) := by
  intro current rest
  rw [List.append_assoc, ht, hu, List.reverse_append, List.append_assoc]

theorem passes_singleton {c : Char} (hc : IsPlain c) : Passes depth [c] := by
  intro current rest
  obtain ⟨hcomma, hopen, hclose⟩ := hc
  show pieces depth current (c :: rest) = pieces depth (c :: current) rest
  rw [pieces]
  simp only [if_neg hopen, if_neg hclose]
  rw [if_neg (fun h => hcomma h.1)]

theorem passes_of_plain (h : ∀ c ∈ t, IsPlain c) : Passes depth t := by
  induction t with
  | nil => exact passes_nil
  | cons c rest ih =>
      obtain ⟨hc, hrest⟩ := List.forall_mem_cons.mp h
      exact (passes_singleton hc).append (ih hrest)

/-- Below the top a comma is a character like others. -/
theorem passes_comma (h : depth ≠ 0) : Passes depth [','] := by
  intro current rest
  show pieces depth current (',' :: rest) = pieces depth (',' :: current) rest
  rw [pieces]
  exact if_neg fun hcut => h hcut.2

/-- The depth is one more between the braces and the same after them. -/
theorem Passes.braces (h : Passes (depth + 1) t) :
    Passes depth ('\x7b' :: t ++ ['\x7d']) := by
  intro current rest
  have hopen : pieces depth current ('\x7b' :: (t ++ '\x7d' :: rest))
      = pieces (depth + 1) ('\x7b' :: current) (t ++ '\x7d' :: rest) := rfl
  have hclose :
      pieces (depth + 1) (t.reverse ++ '\x7b' :: current) ('\x7d' :: rest)
        = pieces (depth + 1 - 1)
          ('\x7d' :: (t.reverse ++ '\x7b' :: current)) rest := rfl
  have hdepth : depth + 1 - 1 = depth := by omega
  calc pieces depth current ('\x7b' :: t ++ ['\x7d'] ++ rest)
      = pieces depth current ('\x7b' :: (t ++ '\x7d' :: rest)) := by simp
    _ = pieces depth ('\x7d' :: (t.reverse ++ '\x7b' :: current)) rest := by
        rw [hopen, h, hclose, hdepth]
    _ = pieces depth (('\x7b' :: t ++ ['\x7d']).reverse ++ current) rest := by
        simp

/-- Below the top, pieces pass with the commas between them. -/
theorem passes_join (hdepth : depth ≠ 0)
    (h : ∀ segment ∈ segments, Passes depth segment) :
    Passes depth (Text.join [','] segments) := by
  induction segments with
  | nil => exact passes_nil
  | cons first rest ih =>
      obtain ⟨hfirst, hrest⟩ := List.forall_mem_cons.mp h
      cases rest with
      | nil => exact hfirst
      | cons next more =>
          rw [Text.join_cons_cons]
          exact (hfirst.append (passes_comma hdepth)).append (ih hrest)

-- ================================================================ pieces

/-- The pieces that were put together come back: all but the last end at a
comma, and the last is what follows. -/
theorem pieces_join (hne : segments ≠ [])
    (h : ∀ segment ∈ segments, Passes 0 segment) :
    pieces 0 [] (Text.join [','] segments)
      = (segments.dropLast, segments.getLast hne) := by
  induction segments with
  | nil => exact absurd rfl hne
  | cons first rest ih =>
      obtain ⟨hfirst, hrest⟩ := List.forall_mem_cons.mp h
      cases rest with
      | nil =>
          have hpass := hfirst [] []
          rw [List.append_nil, List.append_nil] at hpass
          show pieces 0 [] first = ([], first)
          rw [hpass]
          show ([], first.reverse.reverse) = _
          rw [List.reverse_reverse]
      | cons next more =>
          have hmore := ih (List.cons_ne_nil next more) hrest
          rw [Text.join_cons_cons, List.append_assoc, hfirst, List.append_nil]
          show (first.reverse.reverse
            :: (pieces 0 [] (Text.join [','] (next :: more))).1,
              (pieces 0 [] (Text.join [','] (next :: more))).2) = _
          rw [hmore, List.reverse_reverse]
          rfl

/-- With one more comma at the end, every piece ends at a comma. -/
theorem pieces_join_comma (hne : segments ≠ [])
    (h : ∀ segment ∈ segments, Passes 0 segment) :
    (pieces 0 [] (Text.join [','] segments ++ [','])).1 = segments := by
  have hlast : ∀ segment ∈ segments ++ [[]], Passes 0 segment := by
    intro segment hsegment
    rcases List.mem_append.mp hsegment with hsegment | hsegment
    · exact h segment hsegment
    · rw [List.mem_singleton.mp hsegment]
      exact passes_nil
  have hjoin : Text.join [','] segments ++ [',']
      = Text.join [','] (segments ++ [[]]) := by
    rw [Text.join_concat hne, List.append_nil]
  rw [hjoin, pieces_join (by simp) hlast, List.dropLast_concat]

/-- Those of them that are not blank are all that shows where nothing is
found in a blank piece. -/
theorem flatMap_pieces_join (hne : segments ≠ [])
    (h : ∀ segment ∈ segments, Passes 0 segment) {f : Text → List Text}
    (hf : ∀ segment, Text.trim segment = [] → f segment = []) :
    ((pieces 0 [] (Text.join [','] segments ++ [','])).1.filter
        fun item => !(Text.trim item).isEmpty).flatMap f
      = segments.flatMap f := by
  rw [pieces_join_comma hne h]
  clear h hne
  induction segments with
  | nil => rfl
  | cons segment rest ih =>
      by_cases hblank : Text.trim segment = []
      · rw [List.filter_cons_of_neg (by simp [hblank]), List.flatMap_cons, ih,
          hf segment hblank, List.nil_append]
      · rw [List.filter_cons_of_pos (by simpa using hblank), List.flatMap_cons,
          List.flatMap_cons, ih]

/-- The items are the pieces; whether the last one is dropped does not show
in what finds nothing in a blank piece. -/
theorem flatMap_items_join (hne : segments ≠ [])
    (h : ∀ segment ∈ segments, Passes 0 segment) {f : Text → List Text}
    (hf : ∀ segment, Text.trim segment = [] → f segment = []) :
    (items (Text.join [','] segments)).flatMap f = segments.flatMap f := by
  have hsplit : segments.flatMap f
      = segments.dropLast.flatMap f ++ f (segments.getLast hne) := by
    conv => lhs; rw [← List.dropLast_concat_getLast hne]
    rw [List.flatMap_append, List.flatMap_singleton]
  unfold items
  rw [pieces_join hne h, hsplit]
  by_cases hlast : Text.trim (segments.getLast hne) = []
  · simp only [hlast, List.isEmpty_nil, if_true]
    rw [hf _ hlast, List.append_nil]
  · simp only [List.isEmpty_iff, if_neg hlast]
    rw [List.flatMap_append, List.flatMap_singleton]

end SourceAtlas.UseTree
