/-
A search overlooks nothing: if a text that the pattern can take up is written
at a place, and the continuation accepts the place behind it with whatever was
captured on the way, then the search succeeds (`isSome_exec`). It may settle on
another text, so this is about success only; the induction is on the pattern,
and an iteration that takes up nothing is left out of a repetition.

With what is known of the answers of a search this says exactly when a pattern
fails at a place (`fails_iff`), and when it has no match in a text
(`isSome_find?_iff`). The last part goes through the matches of a scan one by
one: between two of them there is none (`Scans`), and a pattern whose matches
keep apart is found wherever it is written (`Scans.exists_matchAt`).

Consumed by the theories of concepts, of declarations and of handlers.
-/
import SourceAtlas.Proofs.Pattern.Scan

namespace SourceAtlas.Pattern

variable {p q : Pattern} {behind : Option Char} {t u v rest : Text}
  {cls : Char → Bool} {x : Char}

-- =============================================================== success

section

variable {β : Type} {k : Cursor → Option β} {c : Cursor}

/-- A choice gives something if one of the two does. -/
theorem isSome_orElse {a b : Option β} :
    (a <|> b).isSome = true ↔ a.isSome = true ∨ b.isSome = true := by
  cases a with
  | none => simp
  | some y => simp

/-- A search over the characters of a class succeeds if it may stop anywhere
and may go on past every character: which of the two it tries first does not
matter. -/
theorem isSome_of_stops_and_goes_on {search : Text → Cursor → Option β}
    (hstops : ∀ t d, (k d).isSome = true → (search t d).isSome = true)
    (hgoes : ∀ x t d, cls x = true → (search t (d.advance x t)).isSome = true
      → (search (x :: t) d).isSome = true) (hahead : c.ahead = u ++ rest)
    (hu : ∀ x ∈ u, cls x = true) (hk : (k (c.past u rest)).isSome = true) :
    (search c.ahead c).isSome = true := by
  rw [hahead]
  induction u generalizing c with
  | nil =>
      rw [List.nil_append] at hahead
      rw [Cursor.past_nil hahead] at hk
      exact hstops _ c hk
  | cons x u ih =>
      obtain ⟨hx, hu⟩ := List.forall_mem_cons.mp hu
      rw [← Cursor.past_cons] at hk
      exact hgoes x (u ++ rest) c hx (ih rfl hu hk)

/-- A greedy run finds what can be found behind one of its parts. -/
theorem isSome_runMost (hahead : c.ahead = u ++ rest)
    (hu : ∀ x ∈ u, cls x = true) (hk : (k (c.past u rest)).isSome = true) :
    (runMost cls k c.ahead c).isSome = true := by
  apply isSome_of_stops_and_goes_on ?_ ?_ hahead hu hk
  · intro t d hd
    cases t with
    | nil => exact hd
    | cons x t =>
        rw [runMost]
        split
        · exact isSome_orElse.mpr (.inr hd)
        · exact hd
  · intro x t d hx hd
    rw [runMost, if_pos hx]
    exact isSome_orElse.mpr (.inl hd)

theorem isSome_runLeast (hahead : c.ahead = u ++ rest)
    (hu : ∀ x ∈ u, cls x = true) (hk : (k (c.past u rest)).isSome = true) :
    (runLeast cls k c.ahead c).isSome = true := by
  apply isSome_of_stops_and_goes_on ?_ ?_ hahead hu hk
  · intro t d hd
    cases t with
    | nil => exact hd
    | cons x t => exact isSome_orElse.mpr (.inl hd)
  · intro x t d hx hd
    rw [runLeast, if_pos hx]
    exact isSome_orElse.mpr (.inr hd)

/-- Iterating goes on as long as its texts do; a text that is empty needs no
iteration. -/
theorem isSome_iterate
    (hbody : ∀ {d : Cursor} {k' : Cursor → Option β} {v s : Text},
      d.ahead = v ++ s → p.Spans d.behind v s
        → (∀ captures, (k' { d.past v s with captures }).isSome = true)
        → (p.exec d k').isSome = true) (h : Chained p.Spans behind u rest)
    {fuel : Nat} (hfuel : u.length ≤ fuel) (hbehind : c.behind = behind)
    (hahead : c.ahead = u ++ rest)
    (hk : ∀ captures, (k { c.past u rest with captures }).isSome = true) :
    (iterate (fun d k' => p.exec d k') k fuel c).isSome = true := by
  induction h generalizing c fuel with
  | nil =>
      have hhere := hk c.captures
      rw [← Cursor.past_nil hahead]
      cases fuel with
      | zero => exact hhere
      | succ fuel => exact isSome_orElse.mpr (.inr hhere)
  | @cons behind u v rest hfirst _ ih =>
      rw [← hbehind] at hfirst
      rw [List.append_assoc] at hahead
      cases u with
      | nil => exact ih hfuel hbehind hahead hk
      | cons y u =>
          rw [List.cons_append, List.length_cons, List.length_append] at hfuel
          obtain ⟨fuel, rfl⟩ : ∃ more, fuel = more + 1 := ⟨fuel - 1, by omega⟩
          rw [iterate]
          refine isSome_orElse.mpr
            (.inl (hbody hahead hfirst fun captures => ?_))
          -- A step has to move on, as this one does with a character.
          have hmoved : c.offset < c.offset + (y :: u).length := by
            rw [List.length_cons]
            omega
          show (if c.offset < c.offset + (y :: u).length then
            iterate (fun d k' => p.exec d k') k fuel
              { c.past (y :: u) (v ++ rest) with captures } else none).isSome
              = true
          rw [if_pos hmoved]
          refine ih (by omega) (congrArg (y :: u).getLast?.or hbehind) rfl
            fun captures => ?_
          have hend := hk captures
          rw [← Cursor.past_past c (y :: u) v (v ++ rest) rest] at hend
          exact hend

/-- A search succeeds where a text that its pattern can take up leads to a
place that is accepted. -/
theorem isSome_exec (hahead : c.ahead = u ++ rest)
    (hspans : p.Spans c.behind u rest)
    (hk : ∀ captures, (k { c.past u rest with captures }).isSome = true) :
    (p.exec c k).isSome = true := by
  -- What is accepted must not depend on captures, since a search may capture
  -- otherwise than the text was taken apart.
  induction p generalizing c k u rest with
  | empty =>
      subst hspans
      have hrest : c.ahead = rest := hahead
      subst hrest
      exact hk c.captures
  | char cls =>
      obtain ⟨x, rfl, hx⟩ := hspans
      rw [exec, hahead]
      show (if cls x = true then k (c.advance x rest) else none).isSome = true
      rw [if_pos hx]
      exact hk c.captures
  | anchor a =>
      obtain ⟨rfl, ha⟩ := hspans
      have hrest : c.ahead = rest := hahead
      subst hrest
      have hholds : a.holds c = true := by
        rw [← ha]
        cases a with
        | lineStart => rfl
        | wordEdge => rfl
        | textEnd => rfl
      rw [exec, if_pos hholds]
      exact hk c.captures
  | seq p q ihp ihq =>
      obtain ⟨v, w, rfl, hp, hq⟩ := hspans
      rw [List.append_assoc] at hahead
      refine ihp hahead hp fun captures => ihq rfl hq fun captures => ?_
      have hend := hk captures
      rw [← Cursor.past_past c v w (w ++ rest) rest] at hend
      exact hend
  | alt p q ihp ihq =>
      rw [exec, isSome_orElse]
      rcases hspans with h | h
      · exact .inl (ihp hahead h hk)
      · exact .inr (ihq hahead h hk)
  | run cls greed =>
      cases greed with
      | most => exact isSome_runMost hahead hspans (hk c.captures)
      | least => exact isSome_runLeast hahead hspans (hk c.captures)
  | star p ih =>
      refine isSome_iterate ih hspans ?_ rfl hahead hk
      rw [hahead, List.length_append]
      omega
  | group slot p ih => exact ih hahead hspans fun captures => hk _
  | look p ih =>
      obtain ⟨rfl, v, w, hrest, hp⟩ := hspans
      have hahead : c.ahead = rest := hahead
      refine ih (hahead.trans hrest) hp fun captures => ?_
      subst hahead
      exact hk captures

end

-- =============================================================== failure

/-- A pattern fails at a place exactly if nothing that it can take up is
written there. -/
theorem fails_iff {c : Cursor} :
    p.Fails c ↔ ∀ u rest, c.ahead = u ++ rest → ¬ p.Spans c.behind u rest := by
  constructor
  · intro h u rest hahead hspans
    have hsome : (p.exec c some).isSome = true :=
      isSome_exec hahead hspans fun _ => rfl
    rw [h some] at hsome
    cases hsome
  · exact fails_of_not_spans

/-- A pattern misses exactly where no front part of the text is of its form. -/
theorem misses_iff :
    p.Misses behind t ↔ ∀ u rest, t = u ++ rest → ¬ p.Spans behind u rest :=
  ⟨fun h => fails_iff.mp (h 0 []), misses_of_not_spans⟩

/-- To miss is a matter of what is written only. -/
theorem matchAt_eq_none_iff {c : Cursor} :
    p.matchAt c = none ↔ p.Misses c.behind c.ahead := by
  constructor
  · intro h
    refine misses_of_not_spans fun u rest hahead hspans => ?_
    have hsome : (p.matchAt c).isSome = true :=
      isSome_exec hahead hspans fun _ => rfl
    rw [h] at hsome
    cases hsome
  · intro h
    exact (h c.offset c.captures).matchAt

/-- A pattern misses in a text if it does at its first place and in the rest. -/
theorem MissesIn.cons (hx : p.Misses behind (x :: v ++ rest))
    (hv : p.MissesIn (some x) v rest) : p.MissesIn behind (x :: v) rest := by
  have hfirst : p.MissesIn behind [x] (v ++ rest) := by
    intro a y b hab
    rcases List.singleton_eq_append_iff.mp hab with ⟨rfl, h⟩ | ⟨-, h⟩
    · obtain ⟨rfl, rfl⟩ := List.cons_eq_cons.mp h
      exact hx
    · cases h
  exact hfirst.append (v := v) hv

/-- Of two ways to cut a text, the later cut cuts what the other one leaves. -/
theorem exists_append_of_length_le {front back : Text}
    (h : u ++ rest = front ++ back) (hlength : u.length ≤ front.length) :
    ∃ a, front = u ++ a ∧ rest = a ++ back := by
  rcases List.append_eq_append_iff.mp h with h | ⟨a, rfl, hback⟩
  · exact h
  · rw [List.length_append] at hlength
    have hnil : a = [] := List.length_eq_zero_iff.mp (by omega)
    subst hnil
    exact ⟨[], by simp, hback.symm⟩

/-- There is no match at a place before the end of a part without matches. -/
theorem MissesIn.misses {front back : Text} (h : p.MissesIn behind u rest)
    (hsplit : u ++ rest = front ++ back) (hlength : front.length < u.length) :
    p.Misses (front.getLast?.or behind) back := by
  rcases List.append_eq_append_iff.mp hsplit with ⟨a, rfl, -⟩ | ⟨a, rfl, hback⟩
  · rw [List.length_append] at hlength
    omega
  · cases a with
    | nil =>
        rw [List.append_nil] at hlength
        omega
    | cons x a =>
        rw [hback]
        exact h front x a rfl

/-- Nothing is found exactly where a pattern misses at every place. -/
theorem findAllFrom_eq_nil_iff (offset : Nat) :
    p.findAllFrom 0 behind offset t = [] ↔ p.MissesIn behind t [] := by
  constructor
  · intro h
    induction t generalizing behind offset with
    | nil => exact missesIn_nil p behind []
    | cons x rest ih =>
        rw [findAllFrom] at h
        split at h
        case h_1 => cases h
        case h_2 hnone =>
          refine MissesIn.cons ?_ (ih _ h)
          rw [List.append_nil]
          exact matchAt_eq_none_iff.mp hnone
  · intro h
    have hpasses := passesOver_of_misses h offset
    rw [List.append_nil] at hpasses
    exact hpasses

/-- There is a match in a text exactly if something that the pattern can take
up is written there. -/
theorem isSome_find?_iff : (p.find? t).isSome = true ↔
    ∃ before u after, t = before ++ (u ++ after) ∧ u ++ after ≠ []
      ∧ p.Spans before.getLast? u after := by
  have hnil : p.find? t = none ↔ p.MissesIn none t [] := by
    rw [← findAllFrom_eq_nil_iff 0]
    exact List.head?_eq_none_iff
  rw [← Option.ne_none_iff_isSome, Ne, hnil]
  constructor
  · intro h
    refine Classical.byContradiction fun hnone => h fun v x w ht =>
      misses_of_not_spans fun u rest hu hspans => hnone ⟨v, u, rest, ?_, ?_, ?_⟩
    · rw [List.append_nil] at hu
      rw [ht, hu]
    · rw [← hu]
      exact List.append_ne_nil_of_left_ne_nil (List.cons_ne_nil x w) []
    · rwa [Option.or_none] at hspans
  · rintro ⟨before, u, after, ht, hne, hspans⟩ hmisses
    obtain ⟨x, w, hxw⟩ := List.exists_cons_of_ne_nil hne
    have hplace := hmisses before x w (by rw [ht, hxw])
    rw [Option.or_none, List.append_nil] at hplace
    exact misses_iff.mp hplace u after hxw.symm hspans

-- ============================================================== all matches

/-- The pattern takes up at least one character. -/
def Consumes (p : Pattern) : Prop := ∀ behind rest, ¬ p.Spans behind [] rest

/-- A sequence consumes if its first part does. -/
theorem Consumes.append_left (hp : p.Consumes) (q : Pattern) :
    (p ++ q).Consumes := by
  rintro behind rest ⟨v, w, hvw, hv, -⟩
  obtain ⟨rfl, rfl⟩ := List.append_eq_nil_iff.mp hvw.symm
  exact hp behind _ hv

theorem Consumes.append_right (p : Pattern) (hq : q.Consumes) :
    (p ++ q).Consumes := by
  rintro behind rest ⟨v, w, hvw, -, hw⟩
  obtain ⟨rfl, rfl⟩ := List.append_eq_nil_iff.mp hvw.symm
  exact hq behind rest hw

/-- A choice consumes if both alternatives do. -/
theorem Consumes.alt (hp : p.Consumes) (hq : q.Consumes) :
    (Pattern.alt p q).Consumes := by
  rintro behind rest (h | h)
  · exact hp behind rest h
  · exact hq behind rest h

theorem consumes_char (cls : Char → Bool) : (char cls).Consumes := by
  rintro behind rest ⟨x, hx, -⟩
  cases hx

/-- A match takes up a text that stands there. -/
theorem spans_of_matchAt {c : Cursor} {m : Match} (h : p.matchAt c = some m) :
    m.start = c.offset ∧ ∃ rest, c.ahead = m.text ++ rest
      ∧ p.Spans c.behind m.text rest := by
  obtain ⟨u, e, hgoes, hm⟩ := exists_goes_of_exec h
  injection hm with hm
  subst hm
  have htext : c.textTo e = u := Cursor.textTo_past hgoes.ahead hgoes.offset
  refine ⟨rfl, e.ahead, ?_, ?_⟩
  · show c.ahead = c.textTo e ++ e.ahead
    rw [htext]
    exact hgoes.ahead
  · show p.Spans c.behind (c.textTo e) e.ahead
    rw [htext]
    exact hgoes.spans

/-- The matches of a scan, one by one: before each of them there is none. -/
inductive Scans (p : Pattern) :
    Option Char → Nat → Text → List Match → Prop where
  | stop {behind : Option Char} {offset : Nat} {t : Text}
      (h : p.MissesIn behind t []) : Scans p behind offset t []
  | step {behind : Option Char} {offset : Nat} {v u rest : Text} {m : Match}
      {ms : List Match}
      (hv : p.MissesIn behind v (u ++ rest))
      (hm : p.matchAt ⟨v.getLast?.or behind, offset + v.length, u ++ rest, []⟩
        = some m)
      (htext : m.text = u) (hne : u ≠ [])
      (hms : Scans p (u.getLast?.or (v.getLast?.or behind))
        (offset + v.length + u.length) rest
        ms) : Scans p behind offset (v ++ (u ++ rest)) (m :: ms)

/-- One more character before the first match. -/
theorem Scans.cons {offset : Nat} {ms : List Match}
    (hx : p.Misses behind (x :: t)) (h : Scans p (some x) (offset + 1) t ms) :
    Scans p behind offset (x :: t) ms := by
  cases h with
  | stop h => exact .stop (MissesIn.cons (by rwa [List.append_nil]) h)
  | @step _ _ v u rest m ms hv hm htext hne hms =>
      have hlength : offset + 1 + v.length = offset + (x :: v).length := by
        rw [List.length_cons]
        omega
      rw [Cursor.getLast?_or_cons x v behind, hlength] at hm hms
      exact .step (v := x :: v) (MissesIn.cons hx hv) hm htext hne hms

/-- What is found is what a scan of the text finds. -/
theorem scans_findAllFrom (hp : p.Consumes) (behind : Option Char)
    (offset : Nat) (t : Text) :
    Scans p behind offset t (p.findAllFrom 0 behind offset t) := by
  induction hlength : t.length
    using Nat.strongRecOn generalizing t behind offset with
  | ind n ih =>
    cases t with
    | nil => exact .stop (missesIn_nil p behind [])
    | cons x t =>
        rw [List.length_cons] at hlength
        rw [findAllFrom]
        split
        case h_1 m hm =>
          obtain ⟨-, rest, hahead, hspans⟩ := spans_of_matchAt hm
          have hahead : x :: t = m.text ++ rest := hahead
          have hne : m.text ≠ [] := by
            intro hnil
            rw [hnil] at hspans
            exact hp _ _ hspans
          obtain ⟨y, more, htext⟩ := List.exists_cons_of_ne_nil hne
          -- the scan goes on behind the match
          have hskip := findAllFrom_skip p behind offset m.text rest
          rw [← hahead, htext, List.length_cons, findAllFrom] at hskip
          rw [htext, List.length_cons, Nat.add_sub_cancel, hskip]
          rw [hahead] at hm ⊢
          refine .step (v := []) (missesIn_nil p behind _) hm rfl hne ?_
          rw [htext]
          refine ih rest.length ?_ _ _ rest rfl
          have hlengths := congrArg List.length hahead
          rw [htext, List.length_append, List.length_cons, List.length_cons]
            at hlengths
          omega
        case h_2 hnone =>
          exact (ih t.length (by omega) (some x) (offset + 1) t rfl).cons
            (matchAt_eq_none_iff.mp hnone)

/-- Every match of a scan was made at a place of its text. -/
theorem Scans.exists_of_mem {offset : Nat} {ms : List Match}
    (h : Scans p behind offset t ms) {m : Match} (hm : m ∈ ms) :
    ∃ front back, t = front ++ back
      ∧ p.matchAt ⟨front.getLast?.or behind, offset + front.length, back, []⟩
        = some m := by
  induction h with
  | stop _ => cases hm
  | @step behind offset v u rest _ ms _ hfirst _ _ _ ih =>
      rcases List.mem_cons.mp hm with rfl | hm
      · exact ⟨v, u ++ rest, rfl, hfirst⟩
      · obtain ⟨front, back, rfl, hm⟩ := ih hm
        refine ⟨v ++ (u ++ front), back, by simp only [List.append_assoc], ?_⟩
        rw [List.getLast?_append, List.getLast?_append, Option.or_assoc,
          Option.or_assoc, List.length_append, List.length_append,
          ← Nat.add_assoc, ← Nat.add_assoc]
        exact hm

/-- No match of the pattern starts inside another one. -/
def KeepsApart (p : Pattern) : Prop :=
  ∀ ⦃behind x u rest⦄, p.Spans behind (x :: u) rest → p.MissesIn (some x) u rest

/-- If matches keep apart, a scan finds them wherever they are written. -/
theorem Scans.exists_matchAt {offset : Nat} {ms : List Match}
    {front back : Text} (hapart : p.KeepsApart) (h : Scans p behind offset t ms)
    (ht : t = front ++ back) (hne : back ≠ [])
    (hwritten : ¬ p.Misses (front.getLast?.or behind) back) :
    ∃ m ∈ ms, p.matchAt ⟨front.getLast?.or behind, offset + front.length, back,
      []⟩ = some m := by
  induction h generalizing front with
  | @stop behind offset t h =>
      have hlength : front.length < t.length := by
        rw [ht, List.length_append]
        have hpos := List.length_pos_iff.mpr hne
        omega
      exact absurd (h.misses (by rw [List.append_nil, ht]) hlength) hwritten
  | @step behind offset v u rest m ms hv hm htext hu hms ih =>
      by_cases hbefore : front.length < v.length
      · exact absurd (hv.misses ht hbefore) hwritten
      obtain ⟨a, rfl, hback⟩ :=
        exists_append_of_length_le ht (Nat.le_of_not_lt hbefore)
      cases a with
      | nil =>
          refine ⟨m, List.mem_cons_self, ?_⟩
          rw [List.append_nil, ← List.nil_append back, ← hback]
          exact hm
      | cons x a =>
          obtain ⟨y, u, rfl⟩ := List.exists_cons_of_ne_nil hu
          obtain ⟨rfl, hcut⟩ := List.cons_eq_cons.mp hback
          have hcut : u ++ rest = a ++ back := hcut
          rw [List.getLast?_append, Option.or_assoc] at hwritten ⊢
          rw [List.length_append]
          by_cases hinside : a.length < u.length
          · -- inside the match
            obtain ⟨-, rest', hahead, hspans⟩ := spans_of_matchAt hm
            have hahead : y :: u ++ rest = m.text ++ rest' := hahead
            rw [htext, List.append_cancel_left_eq] at hahead
            rw [htext, ← hahead] at hspans
            have hplace := (hapart hspans).misses hcut hinside
            rw [Cursor.getLast?_or_cons] at hplace
            exact absurd hplace hwritten
          · obtain ⟨b, rfl, hrest⟩ :=
              exists_append_of_length_le hcut (Nat.le_of_not_lt hinside)
            rw [← List.cons_append, List.getLast?_append, Option.or_assoc]
              at hwritten
            obtain ⟨m', hm', hat⟩ := ih hrest hwritten
            refine ⟨m', List.mem_cons_of_mem m hm', ?_⟩
            rw [← List.cons_append, List.getLast?_append, Option.or_assoc,
              List.length_append, ← Nat.add_assoc, ← Nat.add_assoc]
            exact hat

end SourceAtlas.Pattern
