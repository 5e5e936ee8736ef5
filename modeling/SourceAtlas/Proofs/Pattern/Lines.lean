/-
Searches in texts of one statement after the other, each on its own lines.
Where several patterns are looked for, every one in the whole text, what was
found is put in order by offset afterwards. If a pattern finds in each
statement what belongs to it and nothing between them, its search gives the
finds of the statements in their order (`flatMap_findAll_lines`); and since a
statement ends before the next one starts, sorting the finds of all patterns
gives them statement by statement (`sortBy_lines`).

A search that is bound to the start of a line is decided by what its lines
start with (`LineBound.missesIn_of_lines`), and one that reads a block goes up
to the first closing parenthesis at the start of a line (`reads_upToParen`).
A search in a list finds what is in its items (`yields_of_listed`).

Consumed by the theories of statements, of declarations and of handlers.
-/
import SourceAtlas.Proofs.Ordered
import SourceAtlas.Proofs.Pattern.Scan
import SourceAtlas.Proofs.Text.Lines
import SourceAtlas.Proofs.Text.Listed

namespace SourceAtlas.Pattern

open Text (ofLines ofLines_cons_cons ofLines_concat closedLines closedLines_cons
  exists_first_line Listed Enumerated)

variable {α κ : Type} {p : Pattern} {read : Match → List α}
  {behind : Option Char} {rest : Text}

-- ================================================================== lines

/-- At the start of a text or right after a line feed. -/
def StartsLine (behind : Option Char) : Prop := ∀ x ∈ behind, x = '\n'

/-- Nothing is left, or a line feed comes next. -/
def EndsLine (rest : Text) : Prop := ∀ x ∈ rest.head?, x = '\n'

/-- Each line with the offset that it starts at. -/
def placed (text : κ → Text) : Nat → List κ → List (Nat × κ)
  | _, [] => []
  | offset, line :: lines =>
      (offset, line) :: placed text (offset + (text line).length + 1) lines

/-- A line starts where the anchor of line starts holds. -/
theorem startsLine_iff :
    StartsLine behind ↔ Anchor.lineStart.holds ⟨behind, 0, rest, []⟩
      = true := by
  cases behind with
  | none => simp [StartsLine, Anchor.holds]
  | some x => simp [StartsLine, Anchor.holds]

-- ============================================================ line starts

/-- The pattern has no match but at the start of a line. -/
def LineBound (p : Pattern) : Prop :=
  ∀ behind, ¬ StartsLine behind → ∀ t, p.Misses behind t

/-- That anchor is bound to line starts. -/
theorem lineBound_lineStart : LineBound (anchor .lineStart) := by
  intro behind hbehind t
  refine misses_of_not_spans fun u rest _ hspans => ?_
  exact hbehind (startsLine_iff.mpr hspans.2)

theorem LineBound.append (h : LineBound p) (q : Pattern) : LineBound (p ++ q) :=
  fun behind hbehind t => (h behind hbehind t).append

/-- A line that does not begin with a word is missed. -/
theorem misses_lineStart_lit {w t : Text} (h : ¬ w <+: t) :
    (anchor .lineStart ++ lit w).Misses behind t := by
  refine misses_of_not_spans fun u rest hu hspans => h ?_
  obtain ⟨-, word, rfl, ⟨rfl, -⟩, hword⟩ := hspans
  rw [spans_lit] at hword
  rw [hu, hword]
  exact List.prefix_append w rest

/-- No line starts in the middle of a line. -/
theorem not_startsLine_of_mem {u : Text} (hne : u ≠ []) (hu : '\n' ∉ u) :
    ¬ StartsLine (u.getLast?.or behind) := by
  intro hstart
  have hfeed : u.getLast hne = '\n' := by
    apply hstart
    rw [List.getLast?_eq_some_getLast hne]
    rfl
  apply hu
  rw [← hfeed]
  exact List.getLast_mem hne

/-- There is no match on a line, its line feed included, unless it is at its
start. -/
theorem LineBound.missesIn {u : Text} (h : LineBound p) (hu : '\n' ∉ u.dropLast)
    (hstart : StartsLine behind → p.Misses behind (u ++ rest)) :
    p.MissesIn behind u rest := by
  intro v x w huvw
  by_cases hbehind : StartsLine (v.getLast?.or behind)
  · cases v with
    | nil =>
        rw [List.nil_append] at huvw
        rw [← huvw]
        exact hstart hbehind
    | cons y v =>
        -- the character behind this place is on the line
        refine absurd hbehind
          (not_startsLine_of_mem (List.cons_ne_nil y v) fun hfeed => hu ?_)
        rw [huvw, List.dropLast_append_of_ne_nil (List.cons_ne_nil x w)]
        exact List.mem_append_left _ hfeed
  · exact h _ hbehind _

/-- A bound pattern that misses each of some lines misses in all of them. -/
theorem LineBound.missesIn_closedLines {lines : List Text} (h : LineBound p)
    (hlines : ∀ line ∈ lines, '\n' ∉ line ∧
      ∀ behind rest, p.Misses behind (line ++ '\n' :: rest)) :
    p.MissesIn behind (closedLines lines) rest := by
  induction lines generalizing behind with
  | nil => exact missesIn_nil p behind rest
  | cons line lines ih =>
      obtain ⟨⟨hfeed, hline⟩, hothers⟩ := List.forall_mem_cons.mp hlines
      have hfirst :
          p.MissesIn behind (line ++ ['\n']) (closedLines lines ++ rest) := by
        apply h.missesIn
        · rwa [List.dropLast_concat]
        · intro _
          rw [List.append_assoc]
          exact hline _ _
      exact hfirst.append (ih hothers)

/-- A word that goes no further than its line is on the line. -/
theorem prefix_of_endsLine {w u : Text} (hw : '\n' ∉ w) (hrest : EndsLine rest)
    (h : w <+: u ++ rest) : w <+: u := by
  rcases List.prefix_or_prefix_of_prefix h (List.prefix_append u rest) with h'
    | ⟨more, rfl⟩
  · exact h'
  · rw [List.prefix_append_right_inj] at h
    cases more with
    | nil => simp
    | cons c more =>
        obtain ⟨s, rfl⟩ := h
        have hc : c = '\n' := hrest c rfl
        exact absurd (List.mem_append_right u (hc ▸ List.mem_cons_self)) hw

/-- There is no match in a text whose lines do not announce any. Its first line
counts only where it is a whole one, and its last one goes on in what
follows. -/
theorem LineBound.missesIn_of_lines {quiet : Text → Prop} {u : Text}
    (h : LineBound p)
    (hline : ∀ behind line more, quiet line
      → p.Misses behind (line ++ '\n' :: more))
    (hlast : ∀ behind line, quiet line → p.Misses behind (line ++ rest))
    (hfirst : StartsLine behind
      → ∀ line ∈ (Text.split '\n' u).head?, quiet line)
    (hlines : ∀ line ∈ (Text.split '\n' u).tail, quiet line) :
    p.MissesIn behind u rest := by
  intro v x s huvs
  by_cases hbehind : StartsLine (v.getLast?.or behind)
  · obtain ⟨line, hhead, hcases⟩ := exists_first_line (x :: s)
    have hquiet : quiet line := by
      rcases List.eq_nil_or_concat v with rfl | ⟨v, c, rfl⟩
      · exact hfirst hbehind line (by rw [huvs]; exact hhead)
      · have hc : c = '\n' := hbehind c (by simp)
        refine hlines line ?_
        rw [huvs, hc, List.concat_eq_append, List.append_assoc,
          List.singleton_append, Text.split_append_cons,
          List.tail_append_of_ne_nil (Text.split_ne_nil '\n' v)]
        exact List.mem_append_right _ (List.mem_of_mem_head? hhead)
    rcases hcases with hwhole | ⟨more, hmore⟩
    · rw [hwhole]
      exact hlast _ line hquiet
    · rw [hmore, List.append_assoc, List.cons_append]
      exact hline _ line _ hquiet
  · exact h _ hbehind _

/-- What is in parentheses goes up to the first closing one at the start of a
line. -/
theorem reads_upToParen {q : Pattern} {u : Text} {lines : List Text}
    (hq : q.Reads behind u (closedLines lines ++ [')'] ++ rest) [])
    (hlines : ∀ line ∈ lines, '\n' ∉ line ∧ line.head? ≠ some ')')
    (hbehind : lines = [] → StartsLine (u.getLast?.or behind)) :
    (q ++ group .body (run (fun _ => true) .least) ++ anchor .lineStart
      ++ lit [')']).Reads behind
      (u ++ (closedLines lines ++ [')'])) rest
        [(.body, closedLines lines)] := by
  generalize hfront : u.getLast?.or behind = front at hbehind
  have hclose : LineBound (anchor .lineStart ++ lit [')']) :=
    lineBound_lineStart.append _
  -- No line before starts with the parenthesis, so the shortest body that
  -- reaches one is the whole.
  have hearly :
      (anchor .lineStart ++ lit [')']).MissesIn front (closedLines lines)
        ([')'] ++ rest) := by
    apply hclose.missesIn_closedLines
    intro line hline
    obtain ⟨hfeed, hhead⟩ := hlines line hline
    refine ⟨hfeed, fun behind rest => misses_lineStart_lit ?_⟩
    cases line with
    | nil => simp
    | cons c line => simpa using Ne.symm hhead
  have hstart : StartsLine ((closedLines lines).getLast?.or front) := by
    rcases List.eq_nil_or_concat lines with rfl | ⟨others, last, rfl⟩
    · exact hbehind rfl
    · simp [closedLines, StartsLine]
  have hlast :
      (anchor .lineStart ++ lit [')']).Reads
        ((closedLines lines).getLast?.or front) ([] ++ [')']) rest [] :=
    (reads_anchor (startsLine_iff.mp hstart)).append (reads_lit _ [')'] rest)
  have hbody :
      (group .body (run (fun _ => true) .least)
        ++ (anchor .lineStart ++ lit [')'])).Reads front
        (closedLines lines ++ [')']) rest [(.body, closedLines lines)] :=
    Reads.after_group_least (fun _ _ => rfl) hearly hlast
  rw [← hfront] at hbody
  exact (hq.append_right hbody).assoc.assoc

-- ================================================================= finds

/-- Behind the last line nothing is left but a line feed. -/
theorem findAllFrom_end (closed : Bool)
    (hbreak : ∀ behind rest, p.PassesOver behind ['\n'] rest)
    (behind : Option Char) (offset : Nat) :
    p.findAllFrom 0 behind offset (if closed then ['\n'] else []) = [] := by
  cases closed with
  | false => rfl
  | true => exact (hbreak behind [] offset).trans rfl

/-- Nothing is found in a block up to its closing parenthesis. -/
theorem findAll_block_eq_nil {lines : List Text} (closed : Bool)
    (hlines : ∀ rest, p.MissesIn none (closedLines lines) rest)
    (hparen : ∀ behind rest, p.Misses behind (')' :: rest))
    (hbreak : ∀ behind rest, p.PassesOver behind ['\n'] rest) :
    p.findAll (ofLines closed (lines ++ [[')']])) = [] := by
  have hover : p.PassesOver none _ ([')'] ++ if closed then ['\n'] else []) :=
    passesOver_of_misses (hlines _)
  have hclose (behind : Option Char) :
      p.PassesOver behind [')'] (if closed then ['\n'] else []) :=
    (hparen behind _).passesOver
  rw [ofLines_concat, findAll, hover, hclose, findAllFrom_end closed hbreak]

/-- A block that is read up to its closing parenthesis is all that is found. -/
theorem findAll_block_eq_singleton {lines : List Text} {body : Text}
    (closed : Bool)
    (hread :
      ∀ rest, p.Reads none (closedLines lines ++ [')']) rest [(.body, body)])
    (hbreak : ∀ behind rest, p.PassesOver behind ['\n'] rest) :
    ∃ m : Match, m.get .body = body
      ∧ p.findAll (ofLines closed (lines ++ [[')']])) = [m] := by
  have hne : closedLines lines ++ [')'] ≠ [] :=
    List.append_ne_nil_of_right_ne_nil _ (List.cons_ne_nil ')' [])
  obtain ⟨m, -, hparts, hfound⟩ :=
    (hread (if closed then ['\n'] else [])).findAllFrom hne 0
  rw [findAllFrom_end closed hbreak, List.append_assoc] at hfound
  exact ⟨m, hparts .body, by rw [ofLines_concat, findAll, hfound]⟩

section

variable {text : κ → Text} {lines : List κ}

/-- A text of lines yields what its lines yield. -/
theorem flatMap_findAllFrom_lines {found : κ → Nat → List α} (closed : Bool)
    (hline : ∀ line ∈ lines, ∀ behind rest, StartsLine behind → EndsLine rest
      → p.Yields read behind (text line) rest (found line))
    (hbreak : ∀ behind rest, p.PassesOver behind ['\n'] rest)
    (hbehind : StartsLine behind) (offset : Nat) :
    (p.findAllFrom 0 behind offset (ofLines closed (lines.map text))).flatMap
      read
      = (placed text offset lines).flatMap fun (offset, line) =>
        found line offset := by
  induction lines generalizing behind offset with
  | nil =>
      show (p.findAllFrom 0 behind offset
        (if closed then ['\n'] else [])).flatMap read = []
      rw [findAllFrom_end closed hbreak]
      rfl
  | cons line lines ih =>
      obtain ⟨hfirst, hothers⟩ := List.forall_mem_cons.mp hline
      cases lines with
      | nil =>
          have hyields := hfirst behind (if closed then ['\n'] else []) hbehind
            (by cases closed <;> simp [EndsLine]) offset
          rw [findAllFrom_end closed hbreak] at hyields
          simpa [ofLines, Text.join, placed] using hyields
      | cons next more =>
          have hyields :=
            hfirst behind (['\n'] ++ ofLines closed ((next :: more).map text))
              hbehind (by simp [EndsLine]) offset
          have hnext : StartsLine (some '\n') := by simp [StartsLine]
          have hrest := ih hothers hnext (offset + (text line).length + 1)
          rw [hbreak] at hyields
          rw [List.map_cons, List.map_cons, ofLines_cons_cons]
          exact hyields.trans (congrArg (found line offset ++ ·) hrest)

/-- Lines that are found one by one are all found, each at its place. -/
theorem flatMap_findAll_lines {found : κ → Nat → List α} (closed : Bool)
    (hline : ∀ line ∈ lines, ∀ behind rest, StartsLine behind → EndsLine rest →
      p.Yields read behind (text line) rest (found line))
    (hbreak : ∀ behind rest, p.PassesOver behind ['\n'] rest) :
    (p.findAll (ofLines closed (lines.map text))).flatMap read
      = (placed text 0 lines).flatMap fun (offset, line) => found line offset :=
  flatMap_findAllFrom_lines closed hline hbreak (by simp [StartsLine]) 0

/-- Places do not matter to what ignores them. -/
theorem flatMap_placed {β : Type} (g : κ → List β) (offset : Nat) :
    ((placed text offset lines).flatMap fun r => g r.2) = lines.flatMap g := by
  induction lines generalizing offset with
  | nil => rfl
  | cons line lines ih => rw [placed, List.flatMap_cons, List.flatMap_cons, ih]

/-- No line is placed before the first one. -/
theorem le_of_mem_placed {offset : Nat} {r : Nat × κ}
    (h : r ∈ placed text offset lines) : offset ≤ r.1 := by
  induction lines generalizing offset with
  | nil => cases h
  | cons line lines ih =>
      rcases List.mem_cons.mp h with rfl | h
      · exact Nat.le_refl _
      · have hlater := ih h
        omega

/-- Each line ends before the next one starts. -/
theorem pairwise_placed (offset : Nat) :
    (placed text offset lines).Pairwise fun r s =>
      r.1 + (text r.2).length < s.1 := by
  induction lines generalizing offset with
  | nil => exact List.Pairwise.nil
  | cons line lines ih =>
      refine List.pairwise_cons.mpr ⟨fun s hs => ?_, ih _⟩
      exact le_of_mem_placed hs

/-- The finds of all patterns are sorted line by line. -/
theorem sortBy_lines {ι β : Type} {forms : List ι}
    {found : ι → κ → Nat → List (Nat × β)} {le : Nat × β → Nat × β → Bool}
    (hle : ∀ x y : Nat × β, x.1 < y.1 → le x y = true ∧ le y x = false)
    (hfound : ∀ i line offset,
      ∀ x ∈ found i line offset, offset ≤ x.1
        ∧ x.1 ≤ offset + (text line).length)
    (hline : ∀ line offset,
      (forms.flatMap fun i => found i line offset).Pairwise (le · · = true))
    (offset : Nat) :
    Ordered.sortBy le
        (forms.flatMap fun i =>
          (placed text offset lines).flatMap fun r => found i r.2 r.1)
      = (placed text offset lines).flatMap fun r =>
        forms.flatMap fun i => found i r.2 r.1 := by
  refine Ordered.sortBy_columns (fun r _ => hline r.2 r.1)
    ((pairwise_placed offset).imp ?_)
  intro r s hrs i j x hx y hy
  have hfirst := hfound i r.2 r.1 x hx
  have hsecond := hfound j s.2 s.1 y hy
  exact hle x y (by omega)

end

-- ================================================================= lists

section

variable {t : Text} {gap : Text → Prop} {text : κ → Text} {listed : List κ}
  {found : κ → List α}

/-- A search that finds nothing around the items of a list finds what is in
them. -/
theorem yields_of_listed (h : Listed gap (listed.map text) t)
    (hgap : ∀ g, gap g → ∀ behind rest, p.PassesOver behind g rest)
    (hcomma : ∀ behind rest, p.PassesOver behind [','] rest)
    (hitem : ∀ i ∈ listed,
      ∀ behind rest, p.Yields read behind (text i) rest fun _ => found i)
    (behind : Option Char) :
    p.Yields read behind t rest fun _ => listed.flatMap found := by
  -- one item with its gaps
  have hone {i : κ} {before after rest : Text} (hi : i ∈ listed)
      (hbefore : gap before) (hafter : gap after) (behind : Option Char) :
      p.Yields read behind (before ++ text i ++ after) rest
      fun _ => found i := by
    have hall :=
      (((hgap before hbefore behind _).yields read).append
        (hitem i hi _ _)).append ((hgap after hafter _ rest).yields read)
    simpa using hall
  generalize hitems : listed.map text = items at h
  induction h generalizing listed behind with
  | one item hbefore hafter =>
      obtain ⟨i, rfl, rfl⟩ := List.map_eq_singleton_iff.mp hitems
      simpa using hone List.mem_cons_self hbefore hafter behind
  | last item hbefore hafter hbehind =>
      obtain ⟨i, rfl, rfl⟩ := List.map_eq_singleton_iff.mp hitems
      have hall := (hone List.mem_cons_self hbefore hafter behind).append
        (((hcomma _ _).append (hgap _ hbehind _ rest)).yields read)
      simpa using hall
  | cons item hbefore hafter _ ih =>
      obtain ⟨i, listed, rfl, rfl, hothers⟩ := List.map_eq_cons_iff.mp hitems
      have hrest := fun behind => ih (List.forall_mem_cons.mp hitem).2 behind
        (fun hi => hone (List.mem_cons_of_mem i hi)) hothers
      have hall := (hone List.mem_cons_self hbefore hafter behind).append
        (((hcomma _ _).yields read).append (hrest _))
      simpa using hall

/-- In an enumeration what each item yields is found, in order. -/
theorem yields_of_enumerated (h : Enumerated gap (listed.map text) t)
    (hgap : ∀ g, gap g → ∀ behind rest, p.PassesOver behind g rest)
    (hcomma : ∀ behind rest, p.PassesOver behind [','] rest)
    (hitem : ∀ i ∈ listed,
      ∀ behind rest, p.Yields read behind (text i) rest fun _ => found i)
    (behind : Option Char) :
    p.Yields read behind t rest fun _ => listed.flatMap found := by
  generalize hitems : listed.map text = items at h
  cases h with
  | none h =>
      rw [List.map_eq_nil_iff.mp hitems]
      exact (hgap t h behind rest).yields read
  | some h =>
      subst hitems
      exact yields_of_listed h hgap hcomma hitem behind

end

end SourceAtlas.Pattern
