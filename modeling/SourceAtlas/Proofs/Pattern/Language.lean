/-
What a match looks like, whichever way the search came by it. The text that a
match takes up is described by recursion on the pattern, together with the
character behind it and what follows it, because anchors and looks ahead ask
for those (`Spans`). Every answer of a search goes through such a text
(`exists_goes_of_exec`): the induction is on the pattern, and a sequence uses
the induction hypothesis for its first part with the second part as the
continuation.

That is the way to see that a pattern has no match at a place: a match would
have to be written there (`fails_of_not_spans`). Consumed by the theory of
scanning.
-/
import SourceAtlas.Proofs.Pattern.Captures
import SourceAtlas.Proofs.Pattern.Preferred

namespace SourceAtlas.Pattern

-- ================================================================= texts

/-- Texts in a row, each as `one` asks for it. -/
inductive Chained (one : Option Char → Text → Text → Prop) :
    Option Char → Text → Text → Prop where
  | nil {behind : Option Char} {rest : Text} : Chained one behind [] rest
  | cons {behind : Option Char} {u v rest : Text} (h : one behind u (v ++ rest))
      (hrest : Chained one (u.getLast?.or behind) v rest) :
      Chained one behind (u ++ v) rest

/-- The pattern can take up the text `u` between the character behind it and
what follows it. -/
def Spans : Pattern → Option Char → Text → Text → Prop
  | empty, _, u, _ => u = []
  | char cls, _, u, _ => ∃ x, u = [x] ∧ cls x = true
  | anchor a, behind, u, rest => u = [] ∧ a.holds ⟨behind, 0, rest, []⟩ = true
  | seq p q, behind, u, rest =>
    ∃ v w, u = v ++ w ∧ p.Spans behind v (w ++ rest)
      ∧ q.Spans (v.getLast?.or behind) w rest
  | alt p q, behind, u, rest => p.Spans behind u rest ∨ q.Spans behind u rest
  | run cls _, _, u, _ => ∀ x ∈ u, cls x = true
  | star p, behind, u, rest => Chained p.Spans behind u rest
  | group _ p, behind, u, rest => p.Spans behind u rest
  | look p, behind, u, rest =>
      u = [] ∧ ∃ v w, rest = v ++ w ∧ p.Spans behind v w

variable {p q : Pattern} {behind : Option Char} {t u rest : Text}
  {cls : Char → Bool}

/-- A class repeated at least once spans its texts that are not empty. -/
theorem spans_many1 :
    (many1 cls).Spans behind u rest
      ↔ ∃ x v, u = x :: v ∧ ∀ y ∈ x :: v, cls y = true := by
  constructor
  · rintro ⟨v, w, rfl, ⟨x, rfl, hx⟩, hw⟩
    exact ⟨x, w, rfl, List.forall_mem_cons.mpr ⟨hx, hw⟩⟩
  · rintro ⟨x, v, rfl, h⟩
    obtain ⟨hx, hv⟩ := List.forall_mem_cons.mp h
    exact ⟨[x], v, rfl, ⟨x, rfl, hx⟩, hv⟩

theorem spans_lit : (lit t).Spans behind u rest ↔ u = t := by
  induction t generalizing behind u with
  | nil => exact Iff.rfl
  | cons x t ih =>
      cases t with
      | nil =>
          constructor
          · rintro ⟨y, rfl, hy⟩
            rw [beq_iff_eq.mp hy]
          · rintro rfl
            exact ⟨x, rfl, beq_self_eq_true x⟩
      | cons y t =>
          constructor
          · rintro ⟨v, w, rfl, ⟨z, rfl, hz⟩, hw⟩
            rw [ih.mp hw, beq_iff_eq.mp hz]
            rfl
          · rintro rfl
            exact ⟨[x], y :: t, rfl, ⟨x, rfl, beq_self_eq_true x⟩, ih.mpr rfl⟩

/-- A choice of patterns spans what one of them spans. -/
theorem spans_oneOf {patterns : List Pattern} :
    (oneOf patterns).Spans behind u rest
      ↔ ∃ p ∈ patterns, p.Spans behind u rest := by
  induction patterns with
  | nil =>
      constructor
      · rintro ⟨x, -, hx⟩
        cases hx
      · rintro ⟨p, hp, -⟩
        cases hp
  | cons p patterns ih =>
      cases patterns with
      | nil =>
          constructor
          · intro h
            exact ⟨p, List.mem_cons_self, h⟩
          · rintro ⟨q, hq, h⟩
            rwa [List.mem_singleton.mp hq] at h
      | cons q patterns =>
          constructor
          · rintro (h | h)
            · exact ⟨p, List.mem_cons_self, h⟩
            · obtain ⟨r, hr, h⟩ := ih.mp h
              exact ⟨r, List.mem_cons_of_mem p hr, h⟩
          · rintro ⟨r, hr, h⟩
            rcases List.mem_cons.mp hr with rfl | hr
            · exact .inl h
            · exact .inr (ih.mpr ⟨r, hr, h⟩)

/-- A choice of literals spans just those. -/
theorem spans_anyOf {texts : List String} :
    (anyOf texts).Spans behind u rest ↔ u ∈ texts.map String.toList := by
  rw [anyOf, spans_oneOf, List.mem_map]
  constructor
  · rintro ⟨p, hp, h⟩
    obtain ⟨t, ht, rfl⟩ := List.mem_map.mp hp
    exact ⟨t, ht, (spans_lit.mp h).symm⟩
  · rintro ⟨t, ht, rfl⟩
    exact ⟨lit t.toList, List.mem_map_of_mem ht, spans_lit.mpr rfl⟩

-- =============================================================== answers

/-- Whether the pattern captures nothing. -/
def isPlain : Pattern → Bool
  | seq p q => p.isPlain && q.isPlain
  | alt p q => p.isPlain && q.isPlain
  | star p => p.isPlain
  | group _ _ => false
  | look p => p.isPlain
  | _ => true

/-- A way from `c` to `e` over a text that the pattern can take up. -/
structure Goes (p : Pattern) (c e : Cursor) (u : Text) : Prop where
  ahead : c.ahead = u ++ e.ahead
  behind : e.behind = u.getLast?.or c.behind
  offset : e.offset = c.offset + u.length
  captures : p.isPlain = true → e.captures = c.captures
  spans : p.Spans c.behind u e.ahead

section

variable {β : Type} {k : Cursor → Option β} {y : β} {c d e : Cursor}

/-- Two ways in a row are one over both texts, for a pattern that can take up
one after the other. -/
theorem Goes.append {v : Text} {r : Pattern} (hp : p.Goes c d u)
    (hq : q.Goes d e v)
    (hplain : r.isPlain = true → p.isPlain = true ∧ q.isPlain = true)
    (hspans : p.Spans c.behind u (v ++ e.ahead)
      → q.Spans (u.getLast?.or c.behind) v e.ahead → r.Spans c.behind
    (u ++ v) e.ahead) : r.Goes c e (u ++ v) where
  ahead := by rw [hp.ahead, hq.ahead, List.append_assoc]
  behind := by rw [hq.behind, hp.behind, List.getLast?_append, Option.or_assoc]
  offset := by rw [hq.offset, hp.offset, List.length_append, Nat.add_assoc]
  captures h := (hq.captures (hplain h).2).trans (hp.captures (hplain h).1)
  spans := by
    have hfirst := hp.spans
    have hsecond := hq.spans
    rw [hq.ahead] at hfirst
    rw [hp.behind] at hsecond
    exact hspans hfirst hsecond

/-- A run goes over one more character of its class. -/
theorem Goes.run_concat {greed : Greed} {x : Char}
    (h : (run cls greed).Goes c d u) (hahead : d.ahead = x :: rest)
    (hx : cls x = true) :
    (run cls greed).Goes c (d.advance x rest) (u ++ [x]) := by
  have hchar : (char cls).Goes d (d.advance x rest) [x] :=
    ⟨hahead, rfl, rfl, fun _ => rfl, x, rfl, hx⟩
  refine h.append hchar (fun _ => ⟨rfl, rfl⟩) fun hu _ => ?_
  intro y hy
  rcases List.mem_append.mp hy with hy | hy
  · exact hu y hy
  · rw [List.mem_singleton.mp hy]
    exact hx

/-- Iterating goes over one text after the other. -/
theorem exists_goes_of_iterate {body : Cursor → (Cursor → Option β) → Option β}
    (hbody : ∀ {d k'}, body d k' = some y → ∃ u e, p.Goes d e u ∧ k' e = some y)
    {fuel : Nat} (h : iterate body k fuel c = some y) :
    ∃ u e, (star p).Goes c e u ∧ k e = some y := by
  induction fuel generalizing c with
  | zero => exact ⟨[], c, ⟨rfl, rfl, rfl, fun _ => rfl, .nil⟩, h⟩
  | succ fuel ih =>
      rw [iterate] at h
      rcases eq_some_of_orElse h with h | h
      · obtain ⟨u, d, hu, h⟩ := hbody h
        split at h
        case isTrue =>
          obtain ⟨v, e, hv, hk⟩ := ih h
          exact ⟨u ++ v, e, hu.append hv (fun hplain => ⟨hplain, hplain⟩) .cons,
            hk⟩
        case isFalse => cases h
      · exact ⟨[], c, ⟨rfl, rfl, rfl, fun _ => rfl, .nil⟩, h⟩

/-- Whatever a search hands on lies behind a text that its pattern can take
up. -/
theorem exists_goes_of_exec (h : p.exec c k = some y) :
    ∃ u e, p.Goes c e u ∧ k e = some y := by
  induction p generalizing c k with
  | empty => exact ⟨[], c, ⟨rfl, rfl, rfl, fun _ => rfl, rfl⟩, h⟩
  | char cls =>
      rw [exec] at h
      split at h
      case h_1 x rest hahead =>
        split at h
        case isTrue hx =>
          exact ⟨[x], c.advance x rest,
            ⟨hahead, rfl, rfl, fun _ => rfl, x, rfl, hx⟩, h⟩
        case isFalse => cases h
      case h_2 => cases h
  | anchor a =>
      rw [exec] at h
      split at h
      case isTrue ha =>
        refine ⟨[], c, ⟨rfl, rfl, rfl, fun _ => rfl, rfl, ?_⟩, h⟩
        rw [← ha]
        cases a with
        | lineStart => rfl
        | wordEdge => rfl
        | textEnd => rfl
      case isFalse => cases h
  | seq p q ihp ihq =>
      obtain ⟨u, d, hu, h⟩ := ihp h
      obtain ⟨v, e, hv, h⟩ := ihq h
      exact ⟨u ++ v, e, hu.append hv Bool.and_eq_true_iff.mp
        fun hfirst hrest => ⟨u, v, rfl, hfirst, hrest⟩, h⟩
  | alt p q ihp ihq =>
      rcases eq_some_of_orElse h with h | h
      · obtain ⟨u, e, hu, h⟩ := ihp h
        exact ⟨u, e, ⟨hu.ahead, hu.behind, hu.offset,
          fun hplain => hu.captures (Bool.and_eq_true_iff.mp hplain).1,
            .inl hu.spans⟩, h⟩
      · obtain ⟨u, e, hu, h⟩ := ihq h
        exact ⟨u, e, ⟨hu.ahead, hu.behind, hu.offset,
          fun hplain => hu.captures (Bool.and_eq_true_iff.mp hplain).2,
            .inr hu.spans⟩, h⟩
  | run cls greed =>
      have hstart : ∃ u, (run cls greed).Goes c c u :=
        ⟨[], rfl, rfl, rfl, fun _ => rfl,
          fun _ hx => absurd hx List.not_mem_nil⟩
      -- A run goes character by character from where it starts.
      have hstep : ∀ d x rest, (∃ u, (run cls greed).Goes c d u)
          → d.ahead = x :: rest → cls x = true
          → ∃ u, (run cls greed).Goes c (d.advance x rest) u := by
        intro d x rest hd hahead hx
        obtain ⟨u, hu⟩ := hd
        exact ⟨u ++ [x], hu.run_concat hahead hx⟩
      obtain ⟨e, ⟨u, hu⟩, hk⟩ := exists_of_run hstep hstart h
      exact ⟨u, e, hu, hk⟩
  | star p ih => exact exists_goes_of_iterate ih h
  | group slot p ih =>
      obtain ⟨u, e, hu, h⟩ := ih h
      exact ⟨u, { e with captures :=
        ⟨slot, c.offset, c.textTo e⟩ :: e.captures },
        ⟨hu.ahead, hu.behind, hu.offset,
          fun hplain => absurd hplain Bool.false_ne_true, hu.spans⟩, h⟩
  | look p ih =>
      obtain ⟨u, e, hu, h⟩ := ih h
      exact ⟨[], { c with captures := e.captures },
        ⟨rfl, rfl, rfl, hu.captures, rfl, u, e.ahead, hu.ahead, hu.spans⟩, h⟩

end

/-- A pattern fails where it can take up nothing that is written there. -/
theorem fails_of_not_spans {c : Cursor}
    (h : ∀ u rest, c.ahead = u ++ rest → ¬ p.Spans c.behind u rest) :
    p.Fails c := by
  intro β k
  cases hexec : p.exec c k with
  | none => rfl
  | some y =>
      obtain ⟨u, e, hgoes, -⟩ := exists_goes_of_exec hexec
      exact absurd hgoes.spans (h u e.ahead hgoes.ahead)

end SourceAtlas.Pattern
