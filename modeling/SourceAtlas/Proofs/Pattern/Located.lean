/-
Where a scan of lines finds its names. A pattern that is bound to the start
of a line, and whose matches do not end with a line feed, has its matches on
different lines: behind a match there is at least the rest of its line, and
the next match starts after the line feed that ends it. What a match captures
lies between its two ends, so the captured names come line by line, each on
the line that is reported for it (`NamesByLine.pairwise_located`,
`NamesByLine.onLine`). The induction is on the matches of the scan.

The part of a match that is captured is read off the pattern where neither
what stands before it nor what stands behind it captures anything
(`exists_places`).

Consumed by the theories of type declarations and of handlers.
-/
import SourceAtlas.Proofs.Pattern.Lines
import SourceAtlas.Proofs.Pattern.Found
import SourceAtlas.Proofs.Text.Lines

namespace SourceAtlas.Pattern

open Text (OnLine)

variable {p q lead tail : Pattern} {slot : Slot} {behind : Option Char}
  {t u rest : Text} {c e : Cursor} {m : Match}

-- ============================================================ one capture

section

variable {β : Type} {k : Cursor → Option β} {y : β}

/-- A pattern that captures nothing hands on the place behind its text. -/
theorem exists_past_of_exec (hp : p.isPlain = true) (h : p.exec c k = some y) :
    ∃ u rest, c.ahead = u ++ rest ∧ p.Spans c.behind u rest
      ∧ k (c.past u rest) = some y := by
  obtain ⟨u, e, hgoes, hk⟩ := exists_goes_of_exec h
  have he : e = c.past u e.ahead := by
    rw [Cursor.past, ← hgoes.behind, ← hgoes.offset, ← hgoes.captures hp]
  exact ⟨u, e.ahead, hgoes.ahead, hgoes.spans, by rw [← he]; exact hk⟩

end

/-- A match that captures `w` for the slot, between `v` and `s`. -/
structure Places (slot : Slot) (c : Cursor) (m : Match) (v w s rest : Text) :
    Prop where
  ahead : c.ahead = v ++ (w ++ (s ++ rest))
  text : m.text = v ++ (w ++ s)
  capture : m.capture? slot = some ⟨slot, c.offset + v.length, w⟩

/-- The parts of a match around its only capture. -/
theorem exists_places (hlead : lead.isPlain = true) (hq : q.isPlain = true)
    (htail : tail.isPlain = true)
    (h : (lead ++ group slot q ++ tail).matchAt c = some m) :
    ∃ v w s rest, Places slot c m v w s rest
      ∧ lead.Spans c.behind v (w ++ (s ++ rest))
      ∧ q.Spans (v.getLast?.or c.behind) w (s ++ rest)
      ∧ tail.Spans (w.getLast?.or (v.getLast?.or c.behind)) s rest := by
  obtain ⟨v, rest₁, hv, hlead, h⟩ := exists_past_of_exec hlead h
  obtain ⟨w, rest₂, hw, hq, h⟩ := exists_past_of_exec hq h
  obtain ⟨s, rest, hs, htail, h⟩ := exists_past_of_exec htail h
  have hw : rest₁ = w ++ rest₂ := hw
  have hs : rest₂ = s ++ rest := hs
  subst hs hw
  injection h with h
  subst h
  have hcapture :
      (c.past v (w ++ (s ++ rest))).textTo
        ((c.past v (w ++ (s ++ rest))).past w (s ++ rest)) = w :=
    Cursor.textTo_past rfl rfl
  refine ⟨v, w, s, rest, ⟨hv, ?_, ?_⟩, hlead, hq, htail⟩
  · have hahead : c.ahead = v ++ (w ++ s) ++ rest := by
      rw [hv]; simp only [List.append_assoc]
    refine Cursor.textTo_past hahead ?_
    simp only [Cursor.past, List.length_append, Nat.add_assoc]
  · show (Capture.mk slot (c.offset + v.length) _ :: c.captures).find? _ = _
    rw [hcapture]
    exact List.find?_cons_of_pos (beq_self_eq_true slot)

-- =========================================================== line by line

/-- Each match stands on lines of its own, and captures a name on one of
them. -/
structure NamesByLine (p : Pattern) (slot : Slot) : Prop where
  lineBound : LineBound p
  consumes : p.Consumes
  names : ∀ ⦃c m⦄, p.matchAt c = some m
    → ∃ v w s rest, Places slot c m v w s rest ∧ '\n' ∉ w
      ∧ m.text.getLast? ≠ some '\n'

/-- What some matches capture for the slot, with its line. -/
def captured (slot : Slot) (t : Text) (ms : List Match) : List (Text × Nat) :=
  ms.filterMap fun m =>
    (m.capture? slot).map fun x => (x.text, t.lineAt x.start)

/-- What all matches in a text capture for the slot, with its line. -/
def located (p : Pattern) (slot : Slot) (t : Text) : List (Text × Nat) :=
  captured slot t (p.findAll t)

/-- The line behind a text is one more than its line feeds. -/
theorem lineAt_append (u rest : Text) :
    (u ++ rest).lineAt u.length = u.count '\n' + 1 := by
  rw [Text.lineAt, List.take_left]

/-- What is captured stands on the line that is reported for it. -/
theorem Places.onLine {v w s before : Text} (h : Places slot c m v w s rest)
    (hw : '\n' ∉ w) (ht : t = before ++ c.ahead)
    (hoffset : c.offset = before.length) :
    t.lineAt (c.offset + v.length) = (before ++ v).count '\n' + 1
      ∧ OnLine t (t.lineAt (c.offset + v.length)) w := by
  have hsplit : t = (before ++ v) ++ w ++ (s ++ rest) := by
    rw [ht, h.ahead]
    simp only [List.append_assoc]
  have hon := Text.onLine_lineAt hw (before ++ v) (s ++ rest)
  rw [← hsplit, List.length_append, ← hoffset] at hon
  refine ⟨?_, hon⟩
  rw [hoffset, hsplit, ← List.length_append, List.append_assoc, lineAt_append]

/-- What the first match captures comes first. -/
theorem captured_cons {x : Capture} (h : m.capture? slot = some x) (t : Text)
    (ms : List Match) :
    captured slot t (m :: ms)
      = (x.text, t.lineAt x.start) :: captured slot t ms := by
  simp [captured, h]

/-- Where a match starts, all lines before it have ended. -/
theorem startsLine_of_matchAt (h : LineBound p) (hm : p.matchAt c = some m) :
    StartsLine c.behind := by
  refine Classical.byContradiction fun hstart => ?_
  have hnone : p.matchAt c = none :=
    matchAt_eq_none_iff.mpr (h c.behind hstart c.ahead)
  rw [hm] at hnone
  cases hnone

/-- Passing over some characters to the start of a line, one line has ended
at least, unless a line started before. -/
theorem count_pos_of_startsLine {v : Text}
    (hstart : StartsLine (v.getLast?.or behind))
    (hbehind : ¬ StartsLine behind) : 0 < v.count '\n' := by
  rw [List.count_pos_iff]
  refine Classical.byContradiction fun hfeed => ?_
  cases v with
  | nil => exact hbehind hstart
  | cons x v =>
      exact not_startsLine_of_mem (List.cons_ne_nil x v) hfeed hstart

/-- From a place on, the captured names come line by line: none is on a line
before that of the place, and none is on its line unless that starts there. -/
theorem NamesByLine.captured (h : NamesByLine p slot) {offset : Nat}
    {ahead : Text} {ms : List Match} (hscans : Scans p behind offset ahead ms)
    (before : Text) (ht : t = before ++ ahead)
    (hbehind : behind = before.getLast?) (hoffset : offset = before.length) :
    (captured slot t ms).Pairwise (fun a b => a.2 < b.2)
      ∧ ∀ entry ∈ captured slot t ms, OnLine t entry.2 entry.1
        ∧ before.count '\n' < entry.2
        ∧ (¬ StartsLine behind → before.count '\n' + 1 < entry.2) := by
  induction hscans generalizing before with
  | stop _ => exact ⟨.nil, fun entry hentry => absurd hentry List.not_mem_nil⟩
  | @step behind offset skipped u rest m ms hskipped hm htext hne _ ih =>
      obtain ⟨v, w, s, rest', hplaces, hw, hlast⟩ := h.names hm
      have hstart := startsLine_of_matchAt h.lineBound hm
      have hplace : t = (before ++ skipped) ++ (u ++ rest) := by
        rw [ht, List.append_assoc]
      obtain ⟨hline, hon⟩ := hplaces.onLine hw hplace
        (by rw [hoffset, List.length_append])
      -- the scan goes on in the middle of a line
      obtain ⟨hpairwise, hlater⟩ := ih (before ++ skipped ++ u)
        (by rw [ht]; simp only [List.append_assoc])
        (by rw [List.getLast?_append, List.getLast?_append, hbehind])
        (by rw [hoffset, List.length_append, List.length_append])
      have hmiddle :
          ¬ StartsLine (u.getLast?.or (skipped.getLast?.or behind)) := by
        intro hfeed
        rw [htext, List.getLast?_eq_some_getLast hne] at hlast
        rw [List.getLast?_eq_some_getLast hne] at hfeed
        exact hlast (congrArg some (hfeed _ rfl))
      rw [captured_cons hplaces.capture, hline]
      rw [hline] at hon
      have hcount : v.count '\n' ≤ u.count '\n' := by
        rw [← htext, hplaces.text, List.count_append]
        omega
      simp only [List.count_append] at hlater hon ⊢
      refine ⟨List.pairwise_cons.mpr ⟨fun entry he => ?_, hpairwise⟩,
        fun entry he => ?_⟩
      · have hafter := (hlater entry he).2.2 hmiddle
        show _ < entry.2
        omega
      · rcases List.mem_cons.mp he with rfl | he
        · refine ⟨hon, ?_, fun hbehind => ?_⟩
          · show before.count '\n' < _
            omega
          · have hfeed := count_pos_of_startsLine hstart hbehind
            show before.count '\n' + 1 < _
            omega
        · obtain ⟨hon, -, hafter⟩ := hlater entry he
          have hafter := hafter hmiddle
          exact ⟨hon, by omega, fun _ => by omega⟩

theorem NamesByLine.pairwise_located (h : NamesByLine p slot) (t : Text) :
    (located p slot t).Pairwise fun a b => a.2 < b.2 :=
  (h.captured (scans_findAllFrom h.consumes none 0 t) [] rfl rfl rfl).1

theorem NamesByLine.onLine (h : NamesByLine p slot) {entry : Text × Nat}
    (hentry : entry ∈ located p slot t) : OnLine t entry.2 entry.1 :=
  ((h.captured (scans_findAllFrom h.consumes none 0 t) [] rfl rfl rfl).2 entry
    hentry).1

theorem NamesByLine.exists_capture (h : NamesByLine p slot)
    (hm : m ∈ p.findAll t) : ∃ x, m.capture? slot = some x := by
  obtain ⟨_, _, -, hm⟩ :=
    (scans_findAllFrom h.consumes none 0 t).exists_of_mem hm
  obtain ⟨_, _, _, _, hplaces, -⟩ := h.names hm
  exact ⟨_, hplaces.capture⟩

-- ======================================================== the first of a name

/-- On increasing lines, looking up a name finds its first line. -/
theorem lookup_eq_some_iff_of_increasing {pairs : List (Text × Nat)}
    {name : Text} {line : Nat} (h : pairs.Pairwise fun a b => a.2 < b.2) :
    pairs.lookup name = some line
      ↔ (name, line) ∈ pairs
        ∧ ∀ other, (name, other) ∈ pairs → line ≤ other := by
  induction pairs with
  | nil => simp
  | cons pair rest ih =>
      obtain ⟨first, here⟩ := pair
      obtain ⟨hlater, hrest⟩ := List.pairwise_cons.mp h
      rw [List.lookup_cons]
      by_cases hname : name = first
      · subst hname
        rw [beq_self_eq_true]
        constructor
        · intro heq
          rw [← Option.some.inj heq]
          refine ⟨List.mem_cons_self, fun other hother => ?_⟩
          rcases List.mem_cons.mp hother with heq | hother
          · exact Nat.le_of_eq (Prod.mk.inj heq).2.symm
          · exact Nat.le_of_lt (hlater _ hother)
        · rintro ⟨hline, hleast⟩
          rcases List.mem_cons.mp hline with heq | hline
          · rw [(Prod.mk.inj heq).2]
          · have hlt := hlater _ hline
            have hle := hleast here List.mem_cons_self
            exact absurd hlt (Nat.not_lt.mpr hle)
      · rw [beq_eq_false_iff_ne.mpr hname]
        have hskip : ∀ n, (name, n) ∈ (first, here) :: rest
            ↔ (name, n) ∈ rest := fun n => by
          rw [List.mem_cons, Prod.mk.injEq]
          simp [hname]
        simp only [hskip]
        exact ih hrest

/-- The first match that captures the name does so on the line. -/
def FirstCaptured (slot : Slot) (t : Text) (ms : List Match) (name : Text)
    (line : Nat) : Prop :=
  ∃ before m after x, ms = before ++ m :: after ∧ m.capture? slot = some x
    ∧ x.text = name ∧ t.lineAt x.start = line
    ∧ ∀ earlier ∈ before, earlier.get? slot ≠ some name

/-- Looking up a name finds its first match. -/
theorem lookup_captured_eq_some_iff {ms : List Match} {name : Text}
    {line : Nat} :
    (captured slot t ms).lookup name = some line
      ↔ FirstCaptured slot t ms name line := by
  induction ms with
  | nil => simp [captured, FirstCaptured]
  | cons m ms ih =>
      by_cases hname : m.get? slot = some name
      · obtain ⟨x, hx, rfl⟩ := Option.map_eq_some_iff.mp hname
        rw [captured_cons hx, List.lookup_cons_self]
        constructor
        · intro h
          exact ⟨[], m, ms, x, rfl, hx, rfl, Option.some.inj h, by simp⟩
        · rintro ⟨before, m', after, x', hms, hx', -, hline, hbefore⟩
          cases before with
          | nil =>
              obtain ⟨rfl, -⟩ := List.cons_eq_cons.mp hms
              rw [hx] at hx'
              rw [Option.some.inj hx', hline]
          | cons m₀ before =>
              obtain ⟨rfl, -⟩ := List.cons_eq_cons.mp hms
              exact absurd hname (hbefore m List.mem_cons_self)
      -- A match that captures another name, or none, adds nothing under this
      -- one.
      · have hskip : (captured slot t (m :: ms)).lookup name
            = (captured slot t ms).lookup name := by
          cases hx : m.capture? slot with
          | none => simp [captured, hx]
          | some x =>
              have hne : (name == x.text) = false := by
                refine beq_eq_false_iff_ne.mpr fun heq => hname ?_
                rw [Match.get?, hx, heq]
                rfl
              rw [captured_cons hx, List.lookup_cons, hne]
        rw [hskip, ih]
        constructor
        · rintro ⟨before, m', after, x, rfl, hx, hline, hat, hbefore⟩
          exact ⟨m :: before, m', after, x, rfl, hx, hline, hat,
            List.forall_mem_cons.mpr ⟨hname, hbefore⟩⟩
        · rintro ⟨before, m', after, x, hms, hx, rfl, hat, hbefore⟩
          cases before with
          | nil =>
              obtain ⟨rfl, -⟩ := List.cons_eq_cons.mp hms
              refine absurd ?_ hname
              rw [Match.get?, hx]
              rfl
          | cons m₀ before =>
              obtain ⟨rfl, rfl⟩ := List.cons_eq_cons.mp hms
              exact ⟨before, m', after, x, rfl, hx, rfl, hat,
                (List.forall_mem_cons.mp hbefore).2⟩

end SourceAtlas.Pattern
