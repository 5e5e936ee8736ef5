/-
What a search captures is part of the text it searched. A place in a text is
pinned down by its offset (`Cursor.Within`), and that what was captured stands
in the text at the offset it was captured at is kept along with it. Matching
hands on nothing but such places (`exists_within_of_exec`): the induction is
on the pattern, and in a sequence, a group or a look ahead the induction
hypothesis is used with the continuation that the rest of the pattern makes.
So replacing matches by what they captured brings no new characters in
(`mem_replaceAll`).

Consumed by the theory of routes, which are captures or made of them.
-/
import SourceAtlas.Pattern.Search

namespace SourceAtlas

variable {t : Text}

/-- The captured text stands in `t` where it was captured. -/
def Capture.StandsIn (t : Text) (x : Capture) : Prop :=
  x.text <+: t.drop x.start

/-- A capture that stands in a text is a part of it. -/
theorem Capture.StandsIn.isInfix {x : Capture} (h : x.StandsIn t) :
    x.text <:+: t :=
  (List.IsPrefix.isInfix h).trans (List.drop_suffix x.start t).isInfix

-- ================================================================ places

/-- The place lies in `t`, and so do the captures made on the way there. -/
structure Cursor.Within (t : Text) (c : Cursor) : Prop where
  ahead : c.ahead = t.drop c.offset
  captures : ∀ x ∈ c.captures, x.StandsIn t

namespace Cursor.Within

variable {c e : Cursor}

/-- The first cursor is within its text. -/
theorem ofText (t : Text) : (Cursor.ofText t).Within t where
  ahead := rfl
  captures := fun _ hx => absurd hx List.not_mem_nil

theorem advance (h : c.Within t) {x : Char} {rest : Text}
    (hahead : c.ahead = x :: rest) : (c.advance x rest).Within t where
  ahead := by
    have hdrop : rest = (t.drop c.offset).drop 1 := by
      rw [← h.ahead, hahead]
      rfl
    rw [List.drop_drop] at hdrop
    exact hdrop
  captures := h.captures

/-- What lies between two places is captured where it stands. -/
theorem capture (hc : c.Within t) (he : e.Within t) (slot : Slot) :
    Cursor.Within t { e with captures :=
      ⟨slot, c.offset, c.textTo e⟩ :: e.captures } where
  ahead := he.ahead
  captures := by
    intro x hx
    rcases List.mem_cons.1 hx with rfl | hx
    · show c.textTo e <+: t.drop c.offset
      rw [← hc.ahead]
      exact List.take_prefix (e.offset - c.offset) c.ahead
    · exact he.captures x hx

theorem look (hc : c.Within t) (he : e.Within t) :
    Cursor.Within t { c with captures := e.captures } :=
  ⟨hc.ahead, he.captures⟩

end Cursor.Within

-- ============================================================== matching

namespace Pattern

section

variable {β : Type} {k : Cursor → Option β} {b : β} {c : Cursor}
  {cls : Char → Bool}

/-- What a choice gives is given by one of the two. -/
theorem eq_some_of_orElse {x y : Option β} (h : (x <|> y) = some b) :
    x = some b ∨ y = some b := by
  cases x with
  | none => exact .inr h
  | some a => exact .inl h

/-- What holds at a place and is kept past every character of a class holds
where a search over such characters ends. -/
theorem exists_of_stops_or_goes_on {P : Cursor → Prop}
    {search : Text → Cursor → Option β}
    (hcases : ∀ ahead d, search ahead d = some b
      → k d = some b ∨ ∃ x rest, ahead = x :: rest ∧ cls x = true ∧ search rest
    (d.advance x rest) = some b)
    (hstep : ∀ d x rest, P d → d.ahead = x :: rest → cls x = true
      → P (d.advance x rest)) (hc : P c) (h : search c.ahead c = some b) :
    ∃ e, P e ∧ k e = some b := by
  generalize hahead : c.ahead = ahead at h
  induction ahead generalizing c with
  | nil =>
      rcases hcases [] c h with h | ⟨x, rest, hnil, -⟩
      · exact ⟨c, hc, h⟩
      · cases hnil
  | cons y more ih =>
      rcases hcases (y :: more) c h with h | ⟨x, rest, hcons, hx, h⟩
      · exact ⟨c, hc, h⟩
      · obtain ⟨rfl, rfl⟩ := List.cons_eq_cons.mp hcons
        exact ih (hstep c y more hc hahead hx) rfl h

/-- So it holds where a run ends, be it the longest one or the shortest. -/
theorem exists_of_run {P : Cursor → Prop} {greed : Greed}
    (hstep : ∀ d x rest, P d → d.ahead = x :: rest → cls x = true
      → P (d.advance x rest)) (hc : P c)
    (h : (run cls greed).exec c k = some b) : ∃ e, P e ∧ k e = some b := by
  -- The longest run tries to go on before it stops, the shortest the other way
  -- round.
  cases greed with
  | most =>
      apply exists_of_stops_or_goes_on ?_ hstep hc h
      intro ahead d hd
      cases ahead with
      | nil => exact .inl hd
      | cons x rest =>
          rw [runMost] at hd
          split at hd
          case isFalse => exact .inl hd
          case isTrue hx =>
            rcases eq_some_of_orElse hd with hd | hd
            · exact .inr ⟨x, rest, rfl, hx, hd⟩
            · exact .inl hd
  | least =>
      apply exists_of_stops_or_goes_on ?_ hstep hc h
      intro ahead d hd
      cases ahead with
      | nil => exact .inl hd
      | cons x rest =>
          rw [runLeast] at hd
          rcases eq_some_of_orElse hd with hd | hd
          · exact .inl hd
          · split at hd
            case isTrue hx => exact .inr ⟨x, rest, rfl, hx, hd⟩
            case isFalse => cases hd

/-- Iterating is as good as its body. -/
theorem exists_within_of_iterate
    {body : Cursor → (Cursor → Option β) → Option β}
    (hbody : ∀ {d k'}, d.Within t → body d k' = some b
      → ∃ e, e.Within t ∧ k' e = some b) {fuel : Nat} (hc : c.Within t)
    (h : iterate body k fuel c = some b) : ∃ e, e.Within t ∧ k e = some b := by
  induction fuel generalizing c with
  | zero => exact ⟨c, hc, h⟩
  | succ fuel ih =>
      rw [iterate] at h
      rcases eq_some_of_orElse h with h | h
      · obtain ⟨d, hd, h⟩ := hbody hc h
        split at h
        · exact ih hd h
        · cases h
      · exact ⟨c, hc, h⟩

/-- Whatever a match hands on lies in the text. -/
theorem exists_within_of_exec {p : Pattern} (hc : c.Within t)
    (h : p.exec c k = some b) : ∃ e, e.Within t ∧ k e = some b := by
  induction p generalizing c k with
  | empty => exact ⟨c, hc, h⟩
  | char cls =>
      rw [exec] at h
      split at h
      case h_1 x rest hahead =>
        split at h
        · exact ⟨_, hc.advance hahead, h⟩
        · cases h
      case h_2 => cases h
  | anchor a =>
      rw [exec] at h
      split at h
      · exact ⟨c, hc, h⟩
      · cases h
  | seq p q ihp ihq =>
      obtain ⟨e, he, h⟩ := ihp hc h
      exact ihq he h
  | alt p q ihp ihq =>
      rcases eq_some_of_orElse h with h | h
      · exact ihp hc h
      · exact ihq hc h
  | run cls greed =>
      exact exists_of_run (fun d x rest hd hahead _ => hd.advance hahead) hc h
  | star p ih => exact exists_within_of_iterate ih hc h
  | group slot p ih =>
      obtain ⟨e, he, h⟩ := ih hc h
      exact ⟨_, hc.capture he slot, h⟩
  | look p ih =>
      obtain ⟨e, he, h⟩ := ih hc h
      exact ⟨_, hc.look he, h⟩

end

end Pattern

-- =============================================================== matches

/-- The match was made in `t`: what follows it ends `t`, and what it captured
stands in `t`. -/
structure Match.Within (t : Text) (m : Match) : Prop where
  rest : m.rest <:+ t
  captures : ∀ x ∈ m.captures, x.StandsIn t

/-- A slot holds a part of the text. -/
theorem Match.Within.isInfix_of_get? {m : Match} (h : m.Within t) {slot : Slot}
    {part : Text} (hpart : m.get? slot = some part) : part <:+: t := by
  obtain ⟨x, hx, rfl⟩ := Option.map_eq_some_iff.mp hpart
  exact (h.captures x (List.mem_of_find?_eq_some hx)).isInfix

theorem Match.Within.isInfix_get {m : Match} (h : m.Within t) (slot : Slot) :
    m.get slot <:+: t := by
  rw [Match.get]
  cases hpart : m.get? slot with
  | none => exact List.nil_infix
  | some part => exact h.isInfix_of_get? hpart

namespace Pattern

variable {p : Pattern} {m : Match}

/-- A match between cursors is within their text. -/
theorem within_between {c e : Cursor} (he : e.Within t) :
    (Match.between c e).Within t := by
  refine ⟨?_, he.captures⟩
  show e.ahead <:+ t
  rw [he.ahead]
  exact List.drop_suffix e.offset t

/-- Every match of a text is within it: one at a cursor. -/
theorem within_of_matchAt {c : Cursor} (hc : c.Within t)
    (h : p.matchAt c = some m) : m.Within t := by
  obtain ⟨e, he, hm⟩ := exists_within_of_exec hc h
  injection hm with hm
  rw [← hm]
  exact within_between he

theorem within_of_matchStart (h : p.matchStart t = some m) : m.Within t :=
  within_of_matchAt (Cursor.Within.ofText t) h

theorem within_of_matchWhole (h : p.matchWhole t = some m) : m.Within t := by
  obtain ⟨e, he, hm⟩ := exists_within_of_exec (Cursor.Within.ofText t) h
  split at hm
  · injection hm with hm
    rw [← hm]
    exact within_between he
  · cases hm

theorem within_of_mem_findAllFrom {skip offset : Nat} {behind : Option Char}
    {ahead : Text} (hahead : ahead = t.drop offset)
    (h : m ∈ p.findAllFrom skip behind offset ahead) : m.Within t := by
  induction ahead generalizing skip behind offset with
  | nil =>
      rw [findAllFrom] at h
      cases h
  | cons x rest ih =>
      have hc : Cursor.Within t ⟨behind, offset, x :: rest, []⟩ :=
        ⟨hahead, fun _ hx => absurd hx List.not_mem_nil⟩
      have hrest : rest = t.drop (offset + 1) := (hc.advance rfl).ahead
      cases skip with
      | succ skip =>
          rw [findAllFrom] at h
          exact ih hrest h
      | zero =>
          rw [findAllFrom] at h
          split at h
          case h_1 first hfirst =>
            rcases List.mem_cons.1 h with rfl | h
            · exact within_of_matchAt hc hfirst
            · exact ih hrest h
          case h_2 => exact ih hrest h

theorem within_of_mem_findAll (h : m ∈ p.findAll t) : m.Within t :=
  within_of_mem_findAllFrom rfl h

theorem within_of_find? (h : p.find? t = some m) : m.Within t :=
  within_of_mem_findAll (List.mem_of_head? h)

-- =========================================================== replacing

variable {f : Match → Text}

/-- Whatever stands in a text with its matches replaced stood there before, or
stands in what a match is replaced by. -/
theorem mem_replaceAllFrom {skip offset : Nat} {behind : Option Char}
    {ahead : Text} {x : Char} (hahead : ahead = t.drop offset)
    (h : x ∈ p.replaceAllFrom f skip behind offset ahead) :
    x ∈ ahead ∨ ∃ m, m.Within t ∧ x ∈ f m := by
  induction ahead generalizing skip behind offset with
  | nil =>
      rw [replaceAllFrom] at h
      cases h
  | cons y rest ih =>
      have hc : Cursor.Within t ⟨behind, offset, y :: rest, []⟩ :=
        ⟨hahead, fun _ hx => absurd hx List.not_mem_nil⟩
      have hrest : rest = t.drop (offset + 1) := (hc.advance rfl).ahead
      have hlater :
          ∀ {skip}, x ∈ p.replaceAllFrom f skip (some y) (offset + 1) rest
            → x ∈ y :: rest ∨ ∃ m, m.Within t ∧ x ∈ f m :=
        fun h => (ih hrest h).imp_left (List.mem_cons_of_mem y)
      -- Within a match characters are skipped; behind it the search goes on.
      cases skip with
      | succ skip =>
          rw [replaceAllFrom] at h
          exact hlater h
      | zero =>
          rw [replaceAllFrom] at h
          split at h
          case h_1 m hm =>
            rcases List.mem_append.mp h with h | h
            · exact .inr ⟨m, within_of_matchAt hc hm, h⟩
            · exact hlater h
          case h_2 =>
            rcases List.mem_cons.mp h with rfl | h
            · exact .inl List.mem_cons_self
            · exact hlater h

/-- After replacing, characters are those of the text or of the replacements. -/
theorem mem_replaceAll {x : Char} (h : x ∈ p.replaceAll f t) :
    x ∈ t ∨ ∃ m, m.Within t ∧ x ∈ f m :=
  mem_replaceAllFrom rfl h

/-- Replacing matches by something leaves something. -/
theorem replaceAll_ne_nil (hf : ∀ m, f m ≠ []) (ht : t ≠ []) :
    p.replaceAll f t ≠ [] := by
  obtain ⟨x, rest, rfl⟩ := List.exists_cons_of_ne_nil ht
  rw [replaceAll, replaceAllFrom]
  split
  case h_1 m _ => exact List.append_ne_nil_of_left_ne_nil (hf m) _
  case h_2 => exact List.cons_ne_nil x _

end Pattern

end SourceAtlas
