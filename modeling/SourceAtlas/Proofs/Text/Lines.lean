/-
The two ways of numbering lines. `lines` ends a line at any of the line ends,
so the number of a line counts the line ends before it, of all kinds
(`exists_of_mem_zipIdx_lines`); `lineAt` counts line feeds only, and so finds
a part of the text among the pieces between line feeds (`onLine_lineAt`). The
two numbers differ by the other line ends in between
(`countP_isLineEnd`).

Consumed by the theory of routes, whose scanners go by `lines`.
-/
import SourceAtlas.Text.Blank
import SourceAtlas.Proofs.Text.Split

namespace SourceAtlas.Text

-- ============================================ lines between line feeds

/-- The part stands on the line of that number, from 1 on, where lines end
with line feeds only. -/
def OnLine (t : Text) (n : Int) (part : Text) : Prop :=
  ∃ (i : Nat) (line : Text), n = i + 1 ∧ (split '\n' t)[i]? = some line
    ∧ part <:+: line

/-- A character that is no separator belongs to the first piece. -/
theorem split_cons_of_ne {sep c : Char} {t piece : Text} {pieces : List Text}
    (hc : c ≠ sep) (h : split sep t = piece :: pieces) :
    split sep (c :: t) = (c :: piece) :: pieces := by
  rw [split, if_neg hc, h]

/-- The first piece goes on as long as there is no separator. -/
theorem exists_split_append {sep : Char} {part : Text} (hpart : sep ∉ part)
    (after : Text) :
    ∃ more pieces, split sep (part ++ after) = (part ++ more) :: pieces := by
  induction part with
  | nil =>
      cases hs : split sep after with
      | nil => exact absurd hs (split_ne_nil sep after)
      | cons piece pieces => exact ⟨piece, pieces, hs⟩
  | cons c rest ih =>
      rw [List.mem_cons, not_or] at hpart
      obtain ⟨more, pieces, h⟩ := ih hpart.2
      exact ⟨more, pieces, split_cons_of_ne (Ne.symm hpart.1) h⟩

/-- A part without separators lies in the piece that has as many pieces before
it as the part has separators. -/
theorem exists_piece_of_append {sep : Char} {part : Text} (hpart : sep ∉ part)
    (before after : Text) :
    ∃ piece, (split sep (before ++ part ++ after))[before.count sep]?
      = some piece
      ∧ part <:+: piece := by
  induction before with
  | nil =>
      obtain ⟨more, pieces, h⟩ := exists_split_append hpart after
      refine ⟨part ++ more, ?_, (List.prefix_append part more).isInfix⟩
      rw [List.nil_append, h]
      rfl
  | cons c rest ih =>
      obtain ⟨piece, hpiece, hin⟩ := ih
      by_cases hc : c = sep
      · refine ⟨piece, ?_, hin⟩
        rw [hc, List.count_cons_self, List.cons_append, List.cons_append, split,
          if_pos rfl, List.getElem?_cons_succ]
        exact hpiece
      · rw [List.count_cons_of_ne hc]
        cases hs : split sep (rest ++ part ++ after) with
        | nil => exact absurd hs (split_ne_nil sep _)
        | cons first others =>
            have hcons := split_cons_of_ne hc hs
            rw [← List.cons_append, ← List.cons_append] at hcons
            rw [hcons]
            rw [hs] at hpiece
            -- the character before it joins the first piece only
            cases hcount : rest.count sep with
            | zero =>
                rw [hcount, List.getElem?_cons_zero, Option.some_inj] at hpiece
                refine ⟨c :: first, List.getElem?_cons_zero, ?_⟩
                rw [hpiece]
                exact hin.trans (List.suffix_cons c piece).isInfix
            | succ i =>
                rw [hcount, List.getElem?_cons_succ] at hpiece
                exact ⟨piece, by rw [List.getElem?_cons_succ, hpiece], hin⟩

/-- A part without line feeds stands on the line of its first character. -/
theorem onLine_lineAt {part : Text} (hpart : '\n' ∉ part)
    (before after : Text) :
    OnLine (before ++ part ++ after)
      (lineAt (before ++ part ++ after) before.length) part := by
  obtain ⟨line, hline, hin⟩ := exists_piece_of_append hpart before after
  refine ⟨before.count '\n', line, ?_, hline, hin⟩
  rw [lineAt, List.append_assoc, List.take_left]
  rfl

/-- There is one piece more than there are separators. -/
theorem length_split (sep : Char) (t : Text) :
    (split sep t).length = t.count sep + 1 := by
  induction t with
  | nil => rfl
  | cons c rest ih =>
      by_cases hc : c = sep
      · rw [hc, split, if_pos rfl, List.length_cons, ih, List.count_cons_self]
      · rw [List.count_cons_of_ne hc, ← ih]
        cases hs : split sep rest with
        | nil => exact absurd hs (split_ne_nil sep rest)
        | cons piece pieces =>
            rw [split_cons_of_ne hc hs, List.length_cons, List.length_cons]

/-- Lines are counted from one, up to one more than there are line feeds. -/
theorem OnLine.bounds {t part : Text} {n : Nat} (h : OnLine t n part) :
    1 ≤ n ∧ n ≤ t.count '\n' + 1 := by
  obtain ⟨i, line, hn, hline, -⟩ := h
  have hi := (List.getElem?_eq_some_iff.mp hline).1
  rw [length_split] at hi
  omega

-- ======================================== lines between all line ends

/-- The line ends other than line feeds. -/
def otherLineEnds (t : Text) : Nat := t.countP fun c => isLineEnd c && c != '\n'

/-- Line ends are line feeds and the others. -/
theorem countP_isLineEnd (t : Text) :
    t.countP isLineEnd = t.count '\n' + otherLineEnds t := by
  have hfeed : isLineEnd '\n' = true := by decide
  induction t with
  | nil => rfl
  | cons c rest ih =>
      rw [otherLineEnds] at ih ⊢
      by_cases hc : c = '\n'
      · simp [hc, hfeed, ih]
        omega
      · by_cases hend : isLineEnd c
        · simp [hc, hend, ih]
          omega
        · simp [hc, hend, ih]

/-- A character ends the line being read or belongs to it. -/
theorem linesFrom_cons {current rest : Text} {c : Char} (hc : c ≠ '\r') :
    linesFrom current (c :: rest) =
      if isLineEnd c then current.reverse :: linesFrom [] rest
      else linesFrom (c :: current) rest := by
  rw [linesFrom]
  intro more hreturn
  exact absurd hreturn hc

/-- Each line stands behind as many line ends as its number says. -/
theorem exists_of_mem_zipIdx_linesFrom {current t line : Text} {k n : Nat}
    (hnormal : '\r' ∉ t) (hcurrent : ∀ c ∈ current, isLineEnd c = false)
    (h : (line, n) ∈ (linesFrom current t).zipIdx k) :
    ∃ before after, current.reverse ++ t = before ++ line ++ after
      ∧ n = before.countP isLineEnd + k ∧ ∀ c ∈ line, isLineEnd c = false := by
  induction t generalizing current k with
  | nil =>
      cases current with
      | nil => cases h
      | cons x more =>
          rw [linesFrom] at h
          · obtain ⟨rfl, rfl⟩ := Prod.mk.inj (List.mem_singleton.1 h)
            refine ⟨[], [], by simp, by simp, ?_⟩
            intro c hc
            exact hcurrent c (List.mem_reverse.1 hc)
          · exact List.cons_ne_nil x more
  | cons c rest ih =>
      rw [List.mem_cons, not_or] at hnormal
      rw [linesFrom_cons (Ne.symm hnormal.1)] at h
      split at h
      case isTrue hend =>
        rw [List.zipIdx_cons] at h
        rcases List.mem_cons.1 h with h | h
        · obtain ⟨rfl, rfl⟩ := Prod.mk.inj h
          refine ⟨[], c :: rest, by simp, by simp, ?_⟩
          intro x hx
          exact hcurrent x (List.mem_reverse.1 hx)
        · obtain ⟨before, after, hrest, hn, hline⟩ := ih hnormal.2 (by simp) h
          rw [List.reverse_nil, List.nil_append] at hrest
          -- The line that has been gathered has no line end in it, so only the
          -- one here counts.
          have hnone : current.countP isLineEnd = 0 := by
            rw [List.countP_eq_zero]
            intro x hx
            simp [hcurrent x hx]
          refine ⟨current.reverse ++ c :: before, after, by simp [hrest], ?_,
            hline⟩
          simp [hnone, hend, hn]
          omega
      case isFalse hend =>
        have hmore : ∀ x ∈ c :: current, isLineEnd x = false := by
          intro x hx
          rcases List.mem_cons.1 hx with rfl | hx
          · simpa using hend
          · exact hcurrent x hx
        obtain ⟨before, after, hrest, hn, hline⟩ := ih hnormal.2 hmore h
        refine ⟨before, after, ?_, hn, hline⟩
        rw [← hrest, List.reverse_cons, List.append_assoc]
        rfl

/-- The number of a line is one more than the number of line ends before it,
of whichever kind. -/
theorem exists_of_mem_zipIdx_lines {t line : Text} {n : Nat}
    (hnormal : '\r' ∉ t) (h : (line, n) ∈ (lines t).zipIdx 1) :
    ∃ before after, t = before ++ line ++ after
      ∧ n = before.countP isLineEnd + 1 ∧ ∀ c ∈ line, isLineEnd c = false :=
  exists_of_mem_zipIdx_linesFrom hnormal (by simp) h

-- ====================================================== line ends read

/-- The lines in a row, with or without a line feed behind the last. -/
def ofLines (closed : Bool) (lines : List Text) : Text :=
  join ['\n'] lines ++ if closed then ['\n'] else []

theorem ofLines_cons_cons (closed : Bool) (first next : Text)
    (more : List Text) :
    ofLines closed (first :: next :: more)
      = first ++ (['\n'] ++ ofLines closed (next :: more)) := by
  unfold ofLines
  rw [join_cons_cons]
  simp only [List.append_assoc]

/-- The lines in a row, each with its line feed. -/
def closedLines (lines : List Text) : Text := lines.flatMap (· ++ ['\n'])

/-- Closed lines have a line feed each. -/
theorem closedLines_cons (line : Text) (lines : List Text) :
    closedLines (line :: lines) = line ++ (['\n'] ++ closedLines lines) := by
  rw [closedLines, List.flatMap_cons, List.append_assoc]
  rfl

/-- Only the last line may lack its line feed. -/
theorem ofLines_concat (closed : Bool) (lines : List Text) (last : Text) :
    ofLines closed (lines ++ [last])
      = closedLines lines ++ (last ++ if closed then ['\n'] else []) := by
  induction lines with
  | nil => rfl
  | cons first lines ih =>
      obtain ⟨next, more, hmore⟩ := List.exists_cons_of_ne_nil
        (List.append_ne_nil_of_right_ne_nil lines (List.cons_ne_nil last []))
      rw [List.cons_append, hmore, ofLines_cons_cons, ← hmore, ih,
        closedLines_cons]
      simp only [List.append_assoc]

/-- A text is its first line and what follows it. -/
theorem exists_first_line (t : Text) :
    ∃ line, (split '\n' t).head? = some line
      ∧ (t = line ∨ ∃ more, t = line ++ '\n' :: more) := by
  by_cases hfeed : '\n' ∈ t
  · obtain ⟨line, more, rfl, hline⟩ := List.eq_append_cons_of_mem hfeed
    refine ⟨line, ?_, .inr ⟨more, rfl⟩⟩
    rw [split_append_cons, split_of_not_mem hline]
    rfl
  · refine ⟨t, ?_, .inl rfl⟩
    rw [split_of_not_mem hfeed]
    rfl

end SourceAtlas.Text
