/-
Which match a search settles on. A pattern hands the places where a match
can end to a continuation, most preferred first, so what has to be known of
it at a place is one of two things: where its preferred match ends
(`Prefers`), or that it has none (`Fails`). Both are said of every
continuation, and so they pass through sequences, alternatives, groups and
repetitions without a look at what follows; only a run that goes as little
as it can needs to know that what follows fails at every earlier place.

The second part carries this over to the replacement of all matches, one
match or one character that starts none at a time.

Consumed by the theory of commented documents.
-/
import SourceAtlas.Pattern.Search

namespace SourceAtlas

variable {c d e : Cursor} {u v rest : Text} {x : Char} {cls : Char → Bool}

-- ================================================================ places

/-- The place behind `u`, with `rest` ahead. -/
def Cursor.past (c : Cursor) (u rest : Text) : Cursor :=
  { c with
    behind := u.getLast?.or c.behind
    offset := c.offset + u.length
    ahead := rest }

namespace Cursor

theorem past_nil (h : c.ahead = rest) : c.past [] rest = c := by
  subst h
  rfl

/-- The last character, one at a time. -/
theorem getLast?_or_cons (x : Char) (u : Text) (behind : Option Char) :
    u.getLast?.or (some x) = (x :: u).getLast?.or behind := by
  rw [List.getLast?_cons]
  cases u.getLast? with
  | none => rfl
  | some y => rfl

/-- Going past a text is going past its first character, then past the rest. -/
theorem past_cons (c : Cursor) (x : Char) (u rest : Text) :
    (c.advance x (u ++ rest)).past u rest = c.past (x :: u) rest := by
  simp only [past, advance, getLast?_or_cons x u c.behind, List.length_cons,
    Nat.add_comm, Nat.add_left_comm]

/-- Going past two texts in a row. -/
theorem past_past (c : Cursor) (u v middle rest : Text) :
    (c.past u middle).past v rest = c.past (u ++ v) rest := by
  have hbehind : v.getLast?.or (u.getLast?.or c.behind)
      = (u ++ v).getLast?.or c.behind := by
    rw [List.getLast?_append, Option.or_assoc]
  simp only [past, hbehind, List.length_append, Nat.add_assoc]

/-- What lies between is the text gone past. -/
theorem textTo_past (h : c.ahead = u ++ rest)
    (hoffset : e.offset = c.offset + u.length) : c.textTo e = u := by
  unfold textTo
  rw [h, hoffset, Nat.add_sub_cancel_left]
  exact List.take_left

end Cursor

-- ============================================================== outcomes

namespace Pattern

variable {p q : Pattern}

/-- The preferred match from `c` ends at `e`: a continuation that accepts `e`
decides. -/
def Prefers (p : Pattern) (c e : Cursor) : Prop :=
  ∀ ⦃β : Type⦄ ⦃k : Cursor → Option β⦄ ⦃b : β⦄, k e = some b
    → p.exec c k = some b

/-- There is no match from `c`. -/
def Fails (p : Pattern) (c : Cursor) : Prop :=
  ∀ ⦃β : Type⦄ (k : Cursor → Option β), p.exec c k = none

/-- The match is what the pattern prefers. -/
theorem Prefers.matchAt (h : p.Prefers c e) :
    p.matchAt c = some (.between c e) := h rfl

/-- There is no match where the pattern fails. -/
theorem Fails.matchAt (h : p.Fails c) : p.matchAt c = none := h _

-- ========================================================= one character

theorem prefers_char (hahead : c.ahead = x :: rest) (hx : cls x = true) :
    (char cls).Prefers c (c.past [x] rest) := by
  intro β k b hk
  rw [exec, hahead]
  show (if cls x = true then k (c.advance x rest) else none) = some b
  rw [if_pos hx]
  exact hk

/-- A class fails where no character of it stands. -/
theorem fails_char (h : ∀ x rest, c.ahead = x :: rest → cls x = false) :
    (char cls).Fails c := by
  intro β k
  rw [exec]
  cases hahead : c.ahead with
  | nil => rfl
  | cons x rest => simp [h x rest hahead]

-- ============================================= sequences and alternatives

/-- A sequence goes on from what its first part prefers. -/
theorem Prefers.seq (hp : p.Prefers c d) (hq : q.Prefers d e) :
    (seq p q).Prefers c e := by
  intro β k b hk
  rw [exec]
  exact hp (hq hk)

/-- A sequence fails where its first part does. -/
theorem Fails.seq (hp : p.Fails c) : (seq p q).Fails c := by
  intro β k
  rw [exec]
  exact hp _

/-- What follows one character fails wherever that character is. -/
theorem fails_char_seq (cls : Char → Bool)
    (h : ∀ x rest, c.ahead = x :: rest → cls x = true
      → q.Fails (c.past [x] rest)) : (Pattern.seq (char cls) q).Fails c := by
  intro β k
  rw [exec, exec]
  cases hahead : c.ahead with
  | nil => rfl
  | cons x rest =>
      show (if cls x = true then q.exec (c.advance x rest) k else none) = none
      split
      case isTrue hx => exact h x rest hahead hx k
      case isFalse => rfl

/-- Sequences may be bracketed either way. -/
theorem Prefers.assoc {r : Pattern}
    (h : (Pattern.seq p (Pattern.seq q r)).Prefers c e) :
    (Pattern.seq (Pattern.seq p q) r).Prefers c e := by
  intro β k b hk
  have hexec := h hk
  simp only [exec] at hexec ⊢
  exact hexec

theorem Prefers.alt (hp : p.Prefers c e) : (alt p q).Prefers c e := by
  intro β k b hk
  rw [exec, hp hk]
  rfl

/-- A choice prefers what its second alternative does where the first fails. -/
theorem Fails.alt_prefers (hp : p.Fails c) (hq : q.Prefers c e) :
    (alt p q).Prefers c e := by
  intro β k b hk
  rw [exec, hp k, hq hk]
  rfl

/-- A choice fails where both alternatives do. -/
theorem Fails.alt (hp : p.Fails c) (hq : q.Fails c) : (alt p q).Fails c := by
  intro β k
  rw [exec, hp k, hq k]
  rfl

/-- A group captures what lies between the two places. -/
theorem Prefers.group {slot : Slot} (hahead : c.ahead = u ++ rest)
    (hp : p.Prefers c (c.past u rest)) :
    (group slot p).Prefers c
      { c.past u rest with captures := ⟨slot, c.offset, u⟩ :: c.captures } := by
  intro β k b hk
  have htext : c.textTo (c.past u rest) = u := Cursor.textTo_past hahead rfl
  rw [exec]
  refine hp ?_
  rw [htext]
  exact hk

/-- A group fails where its pattern does. -/
theorem Fails.group {slot : Slot} (hp : p.Fails c) :
    (group slot p).Fails c := by
  intro β k
  rw [exec]
  exact hp _

-- =========================================================== fixed texts

theorem prefers_lit (hahead : c.ahead = u ++ rest) :
    (lit u).Prefers c (c.past u rest) := by
  induction u generalizing c with
  | nil =>
      intro β k b hk
      rw [lit, exec, ← Cursor.past_nil hahead]
      exact hk
  | cons x u ih =>
      cases u with
      | nil =>
          rw [List.singleton_append] at hahead
          exact prefers_char hahead (beq_self_eq_true x)
      | cons y u =>
          have hhead :
              (char (· == x)).Prefers c (c.past [x] (y :: u ++ rest)) :=
            prefers_char hahead (beq_self_eq_true x)
          have htail : (lit (y :: u)).Prefers (c.past [x] (y :: u ++ rest)) _ :=
            ih rfl
          rw [Cursor.past_past] at htail
          exact hhead.seq htail

/-- A literal fails where it does not stand. -/
theorem fails_lit (h : ¬ u <+: c.ahead) : (lit u).Fails c := by
  induction u generalizing c with
  | nil => exact absurd List.nil_prefix h
  | cons x u ih =>
      cases u with
      | nil =>
          refine fails_char fun y rest hahead => ?_
          rw [hahead, List.cons_prefix_cons] at h
          exact beq_eq_false_iff_ne.mpr fun hx => h ⟨hx.symm, List.nil_prefix⟩
      | cons y u =>
          refine fails_char_seq (· == x) fun z rest hahead hz => ih ?_
          intro hpre
          rw [hahead, List.cons_prefix_cons] at h
          exact h ⟨(beq_iff_eq.mp hz).symm, hpre⟩

-- ================================================================= runs

section Runs

variable {β : Type} {k : Cursor → Option β} {b : β}

/-- A run leads to nothing if nothing is accepted wherever it can end. -/
theorem runMost_eq_none
    (h : ∀ u rest, c.ahead = u ++ rest → (∀ x ∈ u, cls x = true)
      → k (c.past u rest) = none) : runMost cls k c.ahead c = none := by
  generalize hahead : c.ahead = ahead
  induction ahead generalizing c with
  | nil =>
      have hnone := h [] [] hahead (by simp)
      rwa [Cursor.past_nil hahead] at hnone
  | cons x rest ih =>
      have hhere : k c = none := by
        have hnone := h [] (x :: rest) hahead (by simp)
        rwa [Cursor.past_nil hahead] at hnone
      rw [runMost]
      split
      case isTrue hx =>
        have hrest : runMost cls k rest (c.advance x rest) = none := by
          refine ih ?_ rfl
          intro u rest' hu hcls
          have hsplit : c.ahead = x :: u ++ rest' := by
            rw [hahead, List.cons_append]
            exact congrArg (x :: ·) hu
          have hnone :=
            h (x :: u) rest' hsplit (List.forall_mem_cons.mpr ⟨hx, hcls⟩)
          have hplace : c.advance x rest = c.advance x (u ++ rest') := by
            rw [show rest = u ++ rest' from hu]
          rw [hplace, Cursor.past_cons]
          exact hnone
        rw [hrest]
        exact hhere
      case isFalse => exact hhere

/-- A run that goes as far as it can ends at the last place that is
accepted. -/
theorem runMost_eq_some (hahead : c.ahead = u ++ rest)
    (hu : ∀ x ∈ u, cls x = true)
    (hlater : ∀ v w, rest = v ++ w → v ≠ [] → (∀ x ∈ v, cls x = true)
      → k (c.past (u ++ v) w) = none) (hlast : k (c.past u rest) = some b) :
    runMost cls k c.ahead c = some b := by
  rw [hahead]
  induction u generalizing c with
  | nil =>
      rw [List.nil_append] at hahead ⊢
      rw [Cursor.past_nil hahead] at hlast
      cases rest with
      | nil => exact hlast
      | cons x rest =>
          rw [runMost]
          split
          case isTrue hx =>
            -- Going on from the last place accepted leads nowhere, so the run
            -- falls back on it.
            have hnone : runMost cls k rest (c.advance x rest) = none := by
              refine runMost_eq_none (c := c.advance x rest)
                fun v w hvw hv => ?_
              have hsplit : rest = v ++ w := hvw
              rw [hsplit, Cursor.past_cons]
              exact hlater (x :: v) w (by rw [hsplit]; rfl)
                (List.cons_ne_nil x v) (List.forall_mem_cons.mpr ⟨hx, hv⟩)
            rw [hnone]
            exact hlast
          case isFalse => exact hlast
  | cons x u ih =>
      rw [List.forall_mem_cons] at hu
      have hrest : runMost cls k (u ++ rest) (c.advance x (u ++ rest))
          = some b := by
        refine ih rfl hu.2 (fun v w hvw hne hv => ?_) ?_
        · have hnone := hlater v w hvw hne hv
          rwa [List.cons_append, ← Cursor.past_cons, List.append_assoc, ← hvw]
            at hnone
        · rw [Cursor.past_cons]
          exact hlast
      rw [List.cons_append, runMost, if_pos hu.1, hrest]
      rfl

/-- A run that goes as little as it can ends at the first place that is
accepted. -/
theorem runLeast_eq_some (hahead : c.ahead = u ++ rest)
    (hu : ∀ x ∈ u, cls x = true)
    (hearly : ∀ v w, u = v ++ w → w ≠ [] → k (c.past v (w ++ rest)) = none)
    (hlast : k (c.past u rest) = some b) :
    runLeast cls k c.ahead c = some b := by
  rw [hahead]
  induction u generalizing c with
  | nil =>
      rw [List.nil_append] at hahead ⊢
      rw [Cursor.past_nil hahead] at hlast
      cases rest with
      | nil => exact hlast
      | cons x rest =>
          rw [runLeast, hlast]
          rfl
  | cons x u ih =>
      rw [List.forall_mem_cons] at hu
      have hhere : k c = none := by
        have hnone := hearly [] (x :: u) rfl (List.cons_ne_nil x u)
        rwa [Cursor.past_nil hahead] at hnone
      rw [List.cons_append, runLeast, hhere, if_pos hu.1]
      show runLeast cls k (u ++ rest) (c.advance x (u ++ rest)) = some b
      refine ih rfl hu.2 ?_ ?_
      · intro v w huw hw
        have hnone := hearly (x :: v) w (by rw [huw]; rfl) hw
        rwa [← Cursor.past_cons, ← List.append_assoc, ← huw] at hnone
      · rw [Cursor.past_cons]
        exact hlast

end Runs

/-- Before a character outside its class a run has come to its end. -/
theorem prefers_many (hahead : c.ahead = u ++ rest) (hu : ∀ x ∈ u, cls x = true)
    (hrest : ∀ x ∈ rest.head?, cls x = false) :
    (many cls).Prefers c (c.past u rest) := by
  intro β k b hk
  rw [many, exec]
  refine runMost_eq_some hahead hu (fun v w hvw hne hv => ?_) hk
  obtain ⟨x, v, rfl⟩ := List.exists_cons_of_ne_nil hne
  have hx := hrest x (by rw [hvw]; rfl)
  rw [hv x List.mem_cons_self] at hx
  cases hx

/-- A run that goes as little as it can ends where what follows first has a
match. -/
theorem prefers_run_least (cls : Char → Bool) (hahead : c.ahead = u ++ rest)
    (hu : ∀ x ∈ u, cls x = true)
    (hearly : ∀ v w, u = v ++ w → w ≠ [] → q.Fails (c.past v (w ++ rest)))
    (hq : q.Prefers (c.past u rest) e) :
    (seq (run cls .least) q).Prefers c e := by
  intro β k b hk
  rw [exec, exec]
  exact runLeast_eq_some hahead hu
    (fun v w huw hw => hearly v w huw hw k) (hq hk)

/-- A run fails together with what follows if that fails wherever the run can
end. -/
theorem fails_many_seq
    (h : ∀ u rest, c.ahead = u ++ rest → (∀ x ∈ u, cls x = true)
      → q.Fails (c.past u rest)) : (seq (many cls) q).Fails c := by
  intro β k
  rw [exec, many, exec]
  exact runMost_eq_none fun u rest hahead hu => h u rest hahead hu k

-- ========================================================== repetitions

/-- From `c` the pattern prefers one match after the other, each moving on,
until it has none at `e`. -/
inductive Repeats (p : Pattern) : Cursor → Cursor → Prop where
  | stop {e : Cursor} (h : p.Fails e) : Repeats p e e
  | step {c d e : Cursor} (h : p.Prefers c d) (hoffset : c.offset < d.offset)
      (hahead : d.ahead.length < c.ahead.length) (hrest : Repeats p d e) :
      Repeats p c e

/-- The steps are bounded by the text ahead, so none is cut off. -/
theorem Repeats.prefers_star (h : Repeats p c e) : (star p).Prefers c e := by
  intro β k b hk
  rw [exec]
  suffices hiter : ∀ fuel, c.ahead.length ≤ fuel
    → iterate (fun d k' => p.exec d k') k fuel c
      = some b from hiter _ (Nat.le_refl _)
  induction h with
  | stop hfails =>
      intro fuel _
      cases fuel with
      | zero => exact hk
      | succ fuel =>
          rw [iterate, hfails]
          exact hk
  | @step c d e hprefers hoffset hahead _ ih =>
      intro fuel hfuel
      cases fuel with
      | zero => omega
      | succ fuel =>
          have hd := ih hk fuel (by omega)
          rw [iterate, hprefers (b := b) (by rw [if_pos hoffset]; exact hd)]
          rfl

-- =========================================================== replacement

variable {f : Match → Text} {behind : Option Char} {offset : Nat}

/-- The characters that a match has used up are passed over. -/
theorem replaceAllFrom_skip (p : Pattern) (f : Match → Text)
    (behind : Option Char) (offset : Nat) (u rest : Text) :
    p.replaceAllFrom f u.length behind offset (u ++ rest)
      = p.replaceAllFrom f 0 (u.getLast?.or behind)
        (offset + u.length) rest := by
  induction u generalizing behind offset with
  | nil => rfl
  | cons x u ih =>
      rw [List.length_cons, List.cons_append, replaceAllFrom, ih,
        Cursor.getLast?_or_cons x u behind, Nat.add_assoc, Nat.add_comm 1]

/-- A preferred match is replaced. -/
theorem replaceAllFrom_of_prefers (hu : u ≠ [])
    (h : p.Prefers ⟨behind, offset, u ++ rest, []⟩ e)
    (hoffset : e.offset = offset + u.length) :
    p.replaceAllFrom f 0 behind offset (u ++ rest)
      = f (.between ⟨behind, offset, u ++ rest, []⟩ e)
        ++ p.replaceAllFrom f 0 (u.getLast?.or behind)
          (offset + u.length) rest := by
  obtain ⟨x, u, rfl⟩ := List.exists_cons_of_ne_nil hu
  have htext : (Match.between ⟨behind, offset, x :: u ++ rest, []⟩ e).text
      = x :: u :=
    Cursor.textTo_past rfl hoffset
  have hmatch := h.matchAt
  have hskip := replaceAllFrom_skip p f behind offset (x :: u) rest
  rw [List.cons_append] at hmatch htext hskip ⊢
  rw [← hskip, replaceAllFrom, hmatch]
  show f _ ++ p.replaceAllFrom f ((Match.between _ e).text.length - 1) _ _ _ = _
  rw [htext, List.length_cons, Nat.add_sub_cancel, replaceAllFrom]

/-- A character that starts no match is kept. -/
theorem replaceAllFrom_of_fails (h : p.Fails ⟨behind, offset, x :: rest, []⟩) :
    p.replaceAllFrom f 0 behind offset (x :: rest)
      = x :: p.replaceAllFrom f 0 (some x) (offset + 1) rest := by
  rw [replaceAllFrom, h.matchAt]

end Pattern

end SourceAtlas
