/-
Which line a route is reported on. The scanners of calls and decorators go
through the text by `Text.lines`, and a route is captured on one of those
lines, so the number reported counts the line ends of every kind before the
route (`Numbered`). Everything else that reports a location counts line feeds
only, by `Text.lineAt`. The number is therefore the one of the other count
plus the line ends before the route that are not line feeds, and the two
disagree on a text as short as a form feed before a call.
-/
import SourceAtlas.Route
import SourceAtlas.Proofs.Pattern.Captures
import SourceAtlas.Proofs.Text.Lines

namespace SourceAtlas.Route

open Pattern
open Text (isLineEnd OnLine otherLineEnds)

variable {f : SourceFile} {text line : Text} {e : EntryPoint}

-- ================================================= routes on their line

/-- The route of a pattern is a part of it. -/
theorem isInfix_of_splitPattern (pattern : Text) :
    (splitPattern pattern).2 <:+: pattern := by
  rw [splitPattern]
  cases h : methodPattern.matchStart pattern with
  | none => exact List.infix_rfl
  | some m => exact (within_of_matchStart h).isInfix_get .path

/-- What is found on a line of Go is located there and stands on it. -/
theorem isInfix_of_mem_scanGoLine {location : Location}
    (h : e ∈ scanGoLine location line) :
    e.location = location ∧ e.route <:+: line := by
  rcases List.mem_append.1 h with h | h
  · obtain ⟨m, hm, rfl⟩ := List.mem_map.1 h
    exact ⟨rfl, (within_of_mem_findAll hm).isInfix_get .path⟩
  · obtain ⟨m, hm, rfl⟩ := List.mem_map.1 h
    have hpattern : m.get .path <:+: line :=
      (within_of_mem_findAll hm).isInfix_get .path
    exact ⟨rfl, (isInfix_of_splitPattern (m.get .path)).trans hpattern⟩

/-- The path of a decorator stands among its arguments. -/
theorem isInfix_of_decoratorPath? {arguments path : Text}
    (h : decoratorPath? arguments = some path) : path <:+: arguments := by
  rw [decoratorPath?] at h
  obtain ⟨h, -⟩ := Option.filter_eq_some_iff.mp h
  obtain ⟨m, hm, rfl⟩ := Option.map_eq_some_iff.mp h
  split at hm
  case h_1 first hfirst =>
    -- the first argument, after blanks
    injection hm with hm
    rw [← hm]
    have hliteral := (within_of_matchStart hfirst).isInfix_get .path
    exact hliteral.trans (List.dropWhile_suffix _).isInfix
  case h_2 =>
    -- what follows a keyword
    obtain ⟨keyword, hkeyword, hm⟩ := Option.bind_eq_some_iff.mp hm
    have hliteral := (within_of_matchStart hm).isInfix_get .path
    exact hliteral.trans (within_of_find? hkeyword).rest.isInfix

/-- What is found on a line of Python is located there and stands on it. -/
theorem isInfix_of_mem_scanDecoratorLine {location : Location}
    (h : e ∈ scanDecoratorLine location line) :
    e.location = location ∧ e.route <:+: line := by
  rw [scanDecoratorLine] at h
  split at h
  case h_1 => cases h
  case h_2 m hm =>
    split at h
    case h_1 => cases h
    case h_2 path hpath =>
      obtain ⟨verb, -, rfl⟩ := List.mem_map.1 h
      have hclause : m.get .clause <:+: line :=
        (within_of_matchStart hm).isInfix_get .clause
      exact ⟨rfl, (isInfix_of_decoratorPath? hpath).trans hclause⟩

-- ================================================= lines in their text

/-- The route stands in the text, on a line whose number is one more than the
line ends before it, of whichever kind. -/
def Numbered (text : Text) (e : EntryPoint) : Prop :=
  ∃ before after, text = before ++ e.route ++ after
    ∧ e.location.line = before.countP isLineEnd + 1 ∧ '\n' ∉ e.route

/-- What scanners of single lines find is numbered by all line ends before
it. -/
theorem numbered_of_mem_flatMap {scanLine : Nat × Text → List EntryPoint}
    (hscan : ∀ n line, ∀ e ∈ scanLine (n, line), e.location.line = n
      ∧ e.route <:+: line) (hnormal : '\r' ∉ text)
    (h : e ∈ (numberedLines text).flatMap scanLine) : Numbered text e := by
  obtain ⟨_, hnumbered, he⟩ := List.mem_flatMap.1 h
  obtain ⟨⟨line, n⟩, hline, rfl⟩ := List.mem_map.1 hnumbered
  obtain ⟨before, after, rfl, hn, hquiet⟩ :=
    Text.exists_of_mem_zipIdx_lines hnormal hline
  obtain ⟨hnumber, start, stop, rfl⟩ := hscan n line e he
  have hfeed : '\n' ∉ e.route := by
    intro hmem
    have hend : isLineEnd '\n' = false := hquiet '\n' (by simp [hmem])
    exact absurd hend (by decide)
  have hnone : start.countP isLineEnd = 0 := by
    rw [List.countP_eq_zero]
    intro c hc
    simp [hquiet c (by simp [hc])]
  refine ⟨before ++ start, stop ++ after, by simp, ?_, hfeed⟩
  rw [hnumber, hn, List.countP_append, hnone]
  simp

theorem Strategy.numbered_of_mem_scan {s : Strategy} {entries : List EntryPoint}
    (hs : s ∈ [Strategy.call, .decorator, .goCall]) (hnormal : '\r' ∉ text)
    (h : s.scan f text = .ok entries) (he : e ∈ entries) : Numbered text e := by
  simp only [List.mem_cons, List.not_mem_nil, or_false] at hs
  rcases hs with rfl | rfl | rfl
  all_goals
    injection h with h
    subst h
  · refine numbered_of_mem_flatMap ?_ hnormal he
    intro n line e he
    obtain ⟨m, hm, he⟩ := List.mem_filterMap.1 he
    obtain ⟨path, hpath, rfl⟩ := Option.map_eq_some_iff.mp he
    exact ⟨rfl, (within_of_mem_findAll hm).isInfix_of_get? hpath⟩
  · refine numbered_of_mem_flatMap ?_ hnormal he
    intro n line e he
    obtain ⟨hlocation, hroute⟩ := isInfix_of_mem_scanDecoratorLine he
    exact ⟨by rw [hlocation], hroute⟩
  · refine numbered_of_mem_flatMap ?_ hnormal he
    intro n line e he
    obtain ⟨hlocation, hroute⟩ := isInfix_of_mem_scanGoLine he
    exact ⟨by rw [hlocation], hroute⟩

-- ================================================= the number reported

/-- A route reported by a scanner of lines stands in the text, on a line by
line feeds whose number is the one reported less the line ends before the
route that are no line feeds. So the two ways of counting give the same number
for all routes if there are none of these. -/
theorem Strategy.reported_line_counts_every_line_end {s : Strategy}
    {entries : List EntryPoint} (hs : s ∈ [Strategy.call, .decorator, .goCall])
    (hnormal : '\r' ∉ text) (h : s.scan f text = .ok entries)
    (he : e ∈ entries) :
    (∃ before after, text = before ++ e.route ++ after
        ∧ OnLine text (Text.lineAt text before.length) e.route
        ∧ e.location.line = Text.lineAt text before.length
          + otherLineEnds before)
      ∧ ((∀ c ∈ text, isLineEnd c = true → c = '\n')
        → OnLine text e.location.line e.route) := by
  obtain ⟨before, after, htext, hnumber, hfeed⟩ :=
    numbered_of_mem_scan hs hnormal h he
  have hon : OnLine text (Text.lineAt text before.length) e.route := by
    rw [htext]
    exact Text.onLine_lineAt hfeed before after
  -- The number counts all line ends before the route, `lineAt` the line feeds
  -- among them.
  have hline : e.location.line
      = Text.lineAt text before.length + otherLineEnds before := by
    rw [hnumber, Text.countP_isLineEnd, Text.lineAt, htext, List.append_assoc,
      List.take_left]
    omega
  refine ⟨⟨before, after, htext, hon, hline⟩, ?_⟩
  intro hfeeds
  have hnone : otherLineEnds before = 0 := by
    rw [otherLineEnds, List.countP_eq_zero]
    intro c hc
    have hmem : c ∈ text := by simp [htext, hc]
    simpa using hfeeds c hmem
  rw [hnone] at hline
  rw [hline]
  simpa using hon

/-- A script that registers one route after a form feed. -/
def formFeedScript : Text := "\x0capp.get(\x27/x\x27, h)".toList

/-- The route of that script, on the line after the form feed. -/
def formFeedEntry : EntryPoint :=
  ⟨"GET".toList, "/x".toList, ⟨"a.js".toList, 2⟩⟩

theorem scan_formFeedScript :
    Strategy.call.scan (SourceFile.ofPath "a.js".toList) formFeedScript
      = .ok [formFeedEntry] := by
  have hscan : scanCalls (SourceFile.ofPath "a.js".toList) formFeedScript
      = [formFeedEntry] := by
    decide +kernel
  rw [Strategy.scan, hscan]

theorem Strategy.reported_line_counts_every_line_end_formFeed :
    ∃ before after, formFeedScript = before ++ formFeedEntry.route ++ after
      ∧ OnLine formFeedScript (Text.lineAt formFeedScript before.length)
        formFeedEntry.route
      ∧ (2 : Int) = Text.lineAt formFeedScript before.length
        + otherLineEnds before :=
  (reported_line_counts_every_line_end List.mem_cons_self (by decide)
    scan_formFeedScript List.mem_cons_self).1

/-- There is no second line by line feeds in that script. -/
theorem Strategy.reported_line_lacks_route :
    ¬ ∀ (s : Strategy) (f : SourceFile) (text : Text)
        (entries : List EntryPoint) (e : EntryPoint),
      s ∈ [Strategy.call, .decorator, .goCall] → '\r' ∉ text →
      s.scan f text = .ok entries →
      e ∈ entries → OnLine text e.location.line e.route := by
  intro h
  obtain ⟨i, line, hi, hline, -⟩ :=
    h .call _ formFeedScript _ formFeedEntry List.mem_cons_self (by decide)
      scan_formFeedScript List.mem_cons_self
  have hone : i = 1 := by
    have hnumber : (2 : Int) = i + 1 := hi
    omega
  have hnone : (Text.split '\n' formFeedScript)[1]? = none := by decide
  rw [hone, hnone] at hline
  cases hline

end SourceAtlas.Route
