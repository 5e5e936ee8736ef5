/-
Scanning a text for all matches, part by part. What a scan does over a part
depends on the character behind that part and on what follows it, so every
judgement here names both, and each comes with its lemma for two parts in a
row:

- `Reads`: the preferred match at the front of the text takes up exactly this
  part, and captures these texts;
- `Misses`: there is no match at the front of the text;
- `MissesIn`: there is no match at any place in this part;
- `PassesOver`: no match starts in this part;
- `Yields`: this is what is read off the matches that start in this part;
- `Becomes`: this is what replacing the matches makes of this part.

Consumed by the theories of import statements.
-/
import SourceAtlas.Proofs.Pattern.Language

namespace SourceAtlas.Pattern

variable {p q : Pattern} {behind : Option Char} {t u v rest : Text}
  {cls : Char → Bool}

-- ================================================= at the front of a text

/-- There is no match at the front of `t`. -/
def Misses (p : Pattern) (behind : Option Char) (t : Text) : Prop :=
  ∀ offset captures, p.Fails ⟨behind, offset, t, captures⟩

/-- A pattern misses where no front part of the text is of its form. -/
theorem misses_of_not_spans
    (h : ∀ u rest, t = u ++ rest → ¬ p.Spans behind u rest) :
    p.Misses behind t :=
  fun _ _ => fails_of_not_spans h

/-- A sequence misses where its first part does. -/
theorem Misses.append (h : p.Misses behind t) : (p ++ q).Misses behind t :=
  fun offset captures => (h offset captures).seq

/-- A choice misses where both alternatives do. -/
theorem Misses.alt (hp : p.Misses behind t) (hq : q.Misses behind t) :
    (Pattern.alt p q).Misses behind t :=
  fun offset captures => (hp offset captures).alt (hq offset captures)

/-- A literal misses where it does not stand. -/
theorem misses_lit (h : ¬ u <+: t) : (lit u).Misses behind t :=
  fun _ _ => fails_lit h

/-- A class misses where no character of it stands. -/
theorem misses_char (h : ∀ x ∈ t.head?, cls x = false) :
    (char cls).Misses behind t := by
  intro offset captures
  refine fails_char fun x rest hahead => h x ?_
  rw [show t = x :: rest from hahead]
  rfl

/-- The preferred match at the front of `u ++ rest` takes up `u`; what it
captures is given latest first. -/
def Reads (p : Pattern) (behind : Option Char) (u rest : Text)
    (parts : List (Slot × Text)) : Prop :=
  ∀ offset old, ∃ new : List Capture,
    new.map (fun x => (x.slot, x.text)) = parts
      ∧ p.Prefers ⟨behind, offset, u ++ rest, old⟩
        ⟨u.getLast?.or behind, offset + u.length, rest, new ++ old⟩

theorem reads_lit (behind : Option Char) (u rest : Text) :
    (lit u).Reads behind u rest [] :=
  fun _ _ => ⟨[], rfl, prefers_lit rfl⟩

/-- A class reads one of its characters. -/
theorem reads_char {x : Char} (hx : cls x = true) :
    (char cls).Reads behind [x] rest [] :=
  fun _ _ => ⟨[], rfl, prefers_char rfl hx⟩

/-- A repeated class reads its characters as far as they go. -/
theorem reads_many (hu : ∀ x ∈ u, cls x = true)
    (hrest : ∀ x ∈ rest.head?, cls x = false) :
    (many cls).Reads behind u rest [] :=
  fun _ _ => ⟨[], rfl, prefers_many rfl hu hrest⟩

theorem reads_anchor {a : Anchor} (h : a.holds ⟨behind, 0, rest, []⟩ = true) :
    (anchor a).Reads behind [] rest [] := by
  intro offset old
  refine ⟨[], rfl, fun β k b hk => ?_⟩
  have hholds : a.holds ⟨behind, offset, rest, old⟩ = true := by
    rw [← h]
    cases a with
    | lineStart => rfl
    | wordEdge => rfl
    | textEnd => rfl
  rw [exec]
  show (if a.holds ⟨behind, offset, rest, old⟩ = true
    then k ⟨behind, offset, rest, old⟩ else none) = some b
  rw [if_pos hholds]
  exact hk

/-- Two parts in a row. -/
theorem Reads.append {parts parts' : List (Slot × Text)}
    (hp : p.Reads behind u (v ++ rest) parts)
    (hq : q.Reads (u.getLast?.or behind) v rest parts') :
    (p ++ q).Reads behind (u ++ v) rest (parts' ++ parts) := by
  intro offset old
  obtain ⟨new, hnew, hfirst⟩ := hp offset old
  obtain ⟨new', hnew', hsecond⟩ := hq (offset + u.length) (new ++ old)
  refine ⟨new' ++ new, ?_, ?_⟩
  · rw [List.map_append, hnew, hnew']
  · rw [List.append_assoc, List.append_assoc, List.length_append,
      ← Nat.add_assoc, List.getLast?_append, Option.or_assoc]
    exact hfirst.seq hsecond

/-- The same where only the first part captures something. -/
theorem Reads.append_left {parts : List (Slot × Text)}
    (hp : p.Reads behind u (v ++ rest) parts)
    (hq : q.Reads (u.getLast?.or behind) v rest []) :
    (p ++ q).Reads behind (u ++ v) rest parts :=
  hp.append hq

/-- The same where only the second part captures something. -/
theorem Reads.append_right {parts : List (Slot × Text)}
    (hp : p.Reads behind u (v ++ rest) [])
    (hq : q.Reads (u.getLast?.or behind) v rest parts) :
    (p ++ q).Reads behind (u ++ v) rest parts := by
  have hboth := hp.append hq
  rwa [List.append_nil] at hboth

/-- A class repeated at least once reads its characters as far as they go, if
there is one. -/
theorem reads_many1 (hne : u ≠ []) (hu : ∀ x ∈ u, cls x = true)
    (hrest : ∀ x ∈ rest.head?, cls x = false) :
    (many1 cls).Reads behind u rest [] := by
  obtain ⟨x, u, rfl⟩ := List.exists_cons_of_ne_nil hne
  obtain ⟨hx, hu⟩ := List.forall_mem_cons.mp hu
  exact (reads_char hx).append (reads_many hu hrest)

/-- Sequences may be bracketed either way. -/
theorem Reads.assoc {r : Pattern} {parts : List (Slot × Text)}
    (h : (p ++ (q ++ r)).Reads behind u rest parts) :
    (p ++ q ++ r).Reads behind u rest parts := by
  intro offset old
  obtain ⟨new, hnew, hprefers⟩ := h offset old
  exact ⟨new, hnew, hprefers.assoc⟩

theorem Reads.group {slot : Slot} {parts : List (Slot × Text)}
    (h : p.Reads behind u rest parts) :
    (group slot p).Reads behind u rest ((slot, u) :: parts) := by
  intro offset old
  obtain ⟨new, hnew, hprefers⟩ := h offset old
  refine ⟨⟨slot, offset, u⟩
    :: new, by rw [List.map_cons, hnew], fun β k b hk => ?_⟩
  have htext : Cursor.textTo ⟨behind, offset, u ++ rest, old⟩
      ⟨u.getLast?.or behind, offset + u.length, rest, new ++ old⟩ = u :=
    Cursor.textTo_past rfl rfl
  rw [exec]
  refine hprefers ?_
  rw [htext]
  exact hk

/-- A choice reads what its first alternative reads. -/
theorem Reads.alt {parts : List (Slot × Text)}
    (h : p.Reads behind u rest parts) :
    (alt p q).Reads behind u rest parts := by
  intro offset old
  obtain ⟨new, hnew, hprefers⟩ := h offset old
  exact ⟨new, hnew, hprefers.alt⟩

/-- Where the first alternative misses, a choice reads what the second one
reads. -/
theorem Misses.alt_reads {parts : List (Slot × Text)}
    (hp : p.Misses behind (u ++ rest)) (hq : q.Reads behind u rest parts) :
    (Pattern.alt p q).Reads behind u rest parts := by
  intro offset old
  obtain ⟨new, hnew, hprefers⟩ := hq offset old
  exact ⟨new, hnew, (hp offset old).alt_prefers hprefers⟩

/-- An optional pattern reads nothing where it misses. -/
theorem Misses.opt_reads (h : p.Misses behind rest) :
    (opt p).Reads behind [] rest [] :=
  Misses.alt_reads h fun _ _ => ⟨[], rfl, fun _ _ _ hk => hk⟩

/-- What is read without a capture is read to the place behind it. -/
theorem Reads.prefers {offset : Nat} {old : List Capture}
    (h : p.Reads behind u rest []) :
    p.Prefers ⟨behind, offset, u ++ rest, old⟩
      ⟨u.getLast?.or behind, offset + u.length, rest, old⟩ := by
  obtain ⟨new, hnew, hprefers⟩ := h offset old
  rw [List.map_eq_nil_iff.mp hnew] at hprefers
  exact hprefers

-- ========================================================= inside a text

/-- There is no match at any place in `u`. -/
def MissesIn (p : Pattern) (behind : Option Char) (u rest : Text) : Prop :=
  ∀ v x w, u = v ++ x :: w → p.Misses (v.getLast?.or behind) (x :: w ++ rest)

/-- There is no place in the empty text. -/
theorem missesIn_nil (p : Pattern) (behind : Option Char) (rest : Text) :
    p.MissesIn behind [] rest := by
  intro v x w h
  simp at h

/-- Places of a text are those of its parts. -/
theorem MissesIn.append (hu : p.MissesIn behind u (v ++ rest))
    (hv : p.MissesIn (u.getLast?.or behind) v rest) :
    p.MissesIn behind (u ++ v) rest := by
  intro a x b hab
  rcases List.append_eq_append_iff.mp hab with ⟨a, rfl, hv'⟩ | ⟨b', hu', hb⟩
  · rw [List.getLast?_append, Option.or_assoc]
    exact hv a x b hv'
  · cases b' with
    | nil =>
        rw [List.append_nil] at hu'
        rw [← hu']
        exact hv [] x b hb.symm
    | cons y b' =>
        rw [List.cons_append] at hb
        obtain ⟨rfl, rfl⟩ := List.cons_eq_cons.mp hb
        have hplace := hu a x b' hu'
        rwa [← List.append_assoc] at hplace

-- ==================================================== runs and what follows

section

variable {parts : List (Slot × Text)}

/-- A run goes back to the last place where what follows has a match. -/
theorem Reads.after_many (hv : ∀ x ∈ v, cls x = true)
    (hlater : ∀ w s, u ++ rest = w ++ s → w ≠ [] → (∀ x ∈ w, cls x = true) →
      q.Misses ((v ++ w).getLast?.or behind) s)
    (hq : q.Reads (v.getLast?.or behind) u rest parts) :
    (many cls ++ q).Reads behind (v ++ u) rest parts := by
  intro offset old
  obtain ⟨new, hnew, hprefers⟩ := hq (offset + v.length) old
  refine ⟨new, hnew, fun β k b hk => ?_⟩
  rw [List.getLast?_append, Option.or_assoc, List.length_append,
    ← Nat.add_assoc] at hk
  exact runMost_eq_some (k := fun e => q.exec e k) (List.append_assoc v u rest)
    hv (fun w s hws hne hw => hlater w s hws hne hw _ _ k) (hprefers hk)

/-- A run that goes as little as it can ends where what follows first has a
match. -/
theorem Reads.after_least (hu : ∀ x ∈ u, cls x = true)
    (hearly : q.MissesIn behind u (v ++ rest))
    (hq : q.Reads (u.getLast?.or behind) v rest parts) :
    (run cls .least ++ q).Reads behind (u ++ v) rest parts := by
  intro offset old
  obtain ⟨new, hnew, hprefers⟩ := hq (offset + u.length) old
  refine ⟨new, hnew, fun β k b hk => ?_⟩
  rw [List.getLast?_append, Option.or_assoc, List.length_append,
    ← Nat.add_assoc] at hk
  refine runLeast_eq_some (k := fun e => q.exec e k)
    (List.append_assoc u v rest) hu (fun w s hws hne => ?_) (hprefers hk)
  obtain ⟨x, s, rfl⟩ := List.exists_cons_of_ne_nil hne
  exact hearly w x s hws _ _ k

/-- The same for a run that is captured. -/
theorem Reads.after_group_least {slot : Slot} (hu : ∀ x ∈ u, cls x = true)
    (hearly : q.MissesIn behind u (v ++ rest))
    (hq : q.Reads (u.getLast?.or behind) v rest parts) :
    (Pattern.group slot (run cls .least) ++ q).Reads behind (u ++ v) rest
      (parts ++ [(slot, u)]) := by
  intro offset old
  obtain ⟨new, hnew, hprefers⟩ :=
    hq (offset + u.length) (⟨slot, offset, u⟩ :: old)
  refine ⟨new ++ [⟨slot, offset, u⟩], ?_, fun β k b hk => ?_⟩
  · rw [List.map_append, hnew]
    rfl
  rw [List.getLast?_append, Option.or_assoc, List.length_append,
    ← Nat.add_assoc, List.append_assoc] at hk
  have htext : Cursor.textTo ⟨behind, offset, u ++ v ++ rest, old⟩
      (Cursor.past ⟨behind, offset, u ++ v ++ rest, old⟩ u (v ++ rest)) = u :=
    Cursor.textTo_past (List.append_assoc u v rest) rfl
  refine runLeast_eq_some
    (k := fun e => q.exec { e with captures := ⟨slot, offset,
      Cursor.textTo ⟨behind, offset, u ++ v ++ rest, old⟩ e⟩ :: e.captures } k)
    (List.append_assoc u v rest) hu (fun w s hws hne => ?_) ?_
  · obtain ⟨x, s, rfl⟩ := List.exists_cons_of_ne_nil hne
    exact hearly w x s hws _ _ k
  · rw [htext]
    exact hprefers hk

end

-- ============================================================ repetitions

/-- One match after the other takes up `u`, and none follows. -/
def ReadsOften (p : Pattern) (behind : Option Char) (u rest : Text) : Prop :=
  ∀ offset old, Repeats p ⟨behind, offset, u ++ rest, old⟩
    ⟨u.getLast?.or behind, offset + u.length, rest, old⟩

/-- A repetition ends where the pattern misses. -/
theorem Misses.readsOften (h : p.Misses behind rest) :
    p.ReadsOften behind [] rest :=
  fun offset old => .stop (h offset old)

/-- A repetition reads once and goes on. -/
theorem ReadsOften.cons (hu : p.Reads behind u (v ++ rest) []) (hne : u ≠ [])
    (hv : p.ReadsOften (u.getLast?.or behind) v rest) :
    p.ReadsOften behind (u ++ v) rest := by
  intro offset old
  have hlength : 0 < u.length := List.length_pos_iff.mpr hne
  rw [List.append_assoc, List.length_append, ← Nat.add_assoc,
    List.getLast?_append, Option.or_assoc]
  refine .step hu.prefers ?_ ?_ (hv (offset + u.length) old)
  · show offset < offset + u.length
    omega
  · show (v ++ rest).length < (u ++ (v ++ rest)).length
    simp only [List.length_append]
    omega

/-- What is read often is read by the repetition. -/
theorem ReadsOften.star (h : p.ReadsOften behind u rest) :
    (Pattern.star p).Reads behind u rest [] :=
  fun offset old => ⟨[], rfl, (h offset old).prefers_star⟩

-- ============================================================ all matches

/-- The capture for a slot is the first part for it. -/
theorem get_between {c e : Cursor} (slot : Slot) :
    (Match.between c e).get slot
      = ((e.captures.map fun x => (x.slot, x.text)).lookup slot).getD [] := by
  unfold Match.get Match.get? Match.capture? Match.between
  generalize e.captures = captures
  induction captures with
  | nil => rfl
  | cons x captures ih =>
      rw [List.map_cons, List.lookup_cons, List.find?_cons]
      by_cases hslot : x.slot = slot
      · simp [hslot]
      · have hne : (slot == x.slot) = false :=
          beq_eq_false_iff_ne.mpr (Ne.symm hslot)
        have hne' : (x.slot == slot) = false := beq_eq_false_iff_ne.mpr hslot
        rw [hne, hne']
        exact ih

/-- The characters that a match has used up are passed over. -/
theorem findAllFrom_skip (p : Pattern) (behind : Option Char) (offset : Nat)
    (u rest : Text) :
    p.findAllFrom u.length behind offset (u ++ rest)
      = p.findAllFrom 0 (u.getLast?.or behind) (offset + u.length) rest := by
  induction u generalizing behind offset with
  | nil => rfl
  | cons x u ih =>
      rw [List.length_cons, List.cons_append, findAllFrom, ih,
        Cursor.getLast?_or_cons x u behind, Nat.add_assoc, Nat.add_comm 1]

/-- What is read is found. -/
theorem Reads.findAllFrom {parts : List (Slot × Text)}
    (h : p.Reads behind u rest parts) (hu : u ≠ []) (offset : Nat) :
    ∃ m : Match, m.start = offset
      ∧ (∀ slot, m.get slot = (parts.lookup slot).getD [])
      ∧ p.findAllFrom 0 behind offset (u ++ rest)
        = m :: p.findAllFrom 0 (u.getLast?.or behind)
          (offset + u.length) rest := by
  obtain ⟨new, hnew, hprefers⟩ := h offset []
  obtain ⟨x, u, rfl⟩ := List.exists_cons_of_ne_nil hu
  have hmatch := hprefers.matchAt
  generalize hm : Match.between _ _ = m at hmatch
  refine ⟨m, by rw [← hm]; rfl, fun slot => ?_, ?_⟩
  · rw [← hm, get_between, ← hnew, List.append_nil]
  · have htext : m.text = x :: u := by
      rw [← hm]
      exact Cursor.textTo_past rfl rfl
    have hskip := findAllFrom_skip p behind offset (x :: u) rest
    rw [List.cons_append] at hmatch hskip ⊢
    rw [← hskip, Pattern.findAllFrom, hmatch]
    show m :: p.findAllFrom (m.text.length - 1) _ _ _ = _
    rw [htext, List.length_cons, Nat.add_sub_cancel, Pattern.findAllFrom]

/-- No match starts in `u`. -/
def PassesOver (p : Pattern) (behind : Option Char) (u rest : Text) : Prop :=
  ∀ offset, p.findAllFrom 0 behind offset (u ++ rest)
    = p.findAllFrom 0 (u.getLast?.or behind) (offset + u.length) rest

/-- There is nothing to pass over in the empty text. -/
theorem passesOver_nil (p : Pattern) (behind : Option Char) (rest : Text) :
    p.PassesOver behind [] rest :=
  fun _ => rfl

/-- What passes over the parts passes over the whole. -/
theorem PassesOver.append (hu : p.PassesOver behind u (v ++ rest))
    (hv : p.PassesOver (u.getLast?.or behind) v rest) :
    p.PassesOver behind (u ++ v) rest := by
  intro offset
  rw [List.append_assoc, hu, hv, List.length_append, ← Nat.add_assoc,
    List.getLast?_append, Option.or_assoc]

/-- A character is passed over where the pattern misses. -/
theorem Misses.passesOver {x : Char} (h : p.Misses behind (x :: rest)) :
    p.PassesOver behind [x] rest := by
  intro offset
  rw [List.singleton_append, Pattern.findAllFrom, (h offset []).matchAt]
  rfl

/-- A part is passed over if there is no match at any place in it. -/
theorem passesOver_of_misses (h : p.MissesIn behind u rest) :
    p.PassesOver behind u rest := by
  induction u generalizing behind with
  | nil => exact passesOver_nil p behind rest
  | cons x u ih =>
      have hfirst : p.PassesOver behind [x] (u ++ rest) :=
        (h [] x u rfl).passesOver
      refine hfirst.append (v := u) (ih fun v y w hu => ?_)
      have hmisses := h (x :: v) y w (by rw [hu]; rfl)
      rwa [← Cursor.getLast?_or_cons] at hmisses

-- ================================================================== finds

variable {α : Type} {read : Match → List α}

/-- What is read off the matches that start in `u`, by the offset of `u`. -/
def Yields (p : Pattern) (read : Match → List α) (behind : Option Char)
    (u rest : Text) (found : Nat → List α) : Prop :=
  ∀ offset, (p.findAllFrom 0 behind offset (u ++ rest)).flatMap read
    = found offset ++ (p.findAllFrom 0 (u.getLast?.or behind)
      (offset + u.length) rest).flatMap read

/-- Nothing is found in what is passed over. -/
theorem PassesOver.yields (h : p.PassesOver behind u rest)
    (read : Match → List α) : p.Yields read behind u rest fun _ => [] := by
  intro offset
  rw [h, List.nil_append]

/-- What is found in a text is found in its first part, then in its second. -/
theorem Yields.append {found found' : Nat → List α}
    (hu : p.Yields read behind u (v ++ rest) found)
    (hv : p.Yields read (u.getLast?.or behind) v rest found') :
    p.Yields read behind (u ++ v) rest
      fun offset => found offset ++ found' (offset + u.length) := by
  intro offset
  rw [List.append_assoc, hu, hv, List.length_append, ← Nat.add_assoc,
    List.getLast?_append, Option.or_assoc, List.append_assoc]

/-- A match that is read yields what is read off it. -/
theorem Reads.yields {parts : List (Slot × Text)} {found : Nat → List α}
    (h : p.Reads behind u rest parts) (hu : u ≠ [])
    (hread : ∀ m : Match, (∀ slot, m.get slot = (parts.lookup slot).getD []) →
      read m = found m.start) : p.Yields read behind u rest found := by
  intro offset
  obtain ⟨m, hstart, hparts, hfound⟩ := h.findAllFrom hu offset
  rw [hfound, List.flatMap_cons, hread m hparts, hstart]

-- ============================================================ replacement

variable {f : Match → Text}

/-- Replacing the matches that start in `u` turns it into `v`. -/
def Becomes (p : Pattern) (f : Match → Text) (behind : Option Char)
    (u rest v : Text) : Prop :=
  ∀ offset, p.replaceAllFrom f 0 behind offset (u ++ rest)
    = v ++ p.replaceAllFrom f 0 (u.getLast?.or behind) (offset + u.length) rest

/-- Replacing in a text is replacing in its parts. -/
theorem Becomes.append {u' v' : Text} (hu : p.Becomes f behind u (v ++ rest) u')
    (hv : p.Becomes f (u.getLast?.or behind) v rest v') :
    p.Becomes f behind (u ++ v) rest (u' ++ v') := by
  intro offset
  rw [List.append_assoc, hu, hv, List.length_append, ← Nat.add_assoc,
    List.getLast?_append, Option.or_assoc, List.append_assoc]

/-- A part without a match is kept. -/
theorem becomes_self (h : ∀ x ∈ u, ∀ behind rest, p.Misses behind (x :: rest)) :
    p.Becomes f behind u rest u := by
  induction u generalizing behind with
  | nil => exact fun _ => rfl
  | cons x u ih =>
      obtain ⟨hx, hu⟩ := List.forall_mem_cons.mp h
      have hfirst : p.Becomes f behind [x] (u ++ rest) [x] := by
        intro offset
        exact replaceAllFrom_of_fails (hx behind (u ++ rest) offset [])
      exact hfirst.append (v := u) (ih hu)

/-- A match that is read is replaced. -/
theorem Reads.becomes {parts : List (Slot × Text)}
    (h : p.Reads behind u rest parts) (hu : u ≠ []) (hf : ∀ m, f m = v) :
    p.Becomes f behind u rest v := by
  intro offset
  obtain ⟨new, -, hprefers⟩ := h offset []
  rw [replaceAllFrom_of_prefers hu hprefers rfl, hf]

-- ============================================================ whole texts

/-- A whole text that is read is matched. -/
theorem isSome_matchWhole_of_reads {p : Pattern} {parts : List (Slot × Text)}
    (h : p.Reads none t [] parts) : (p.matchWhole t).isSome = true := by
  obtain ⟨new, -, hprefers⟩ := h 0 []
  rw [List.append_nil] at hprefers
  exact Option.isSome_iff_exists.mpr ⟨_, hprefers (if_pos rfl)⟩

/-- A non-empty text of one class is matched by its repetition. -/
theorem isSome_matchWhole_many1 {cls : Char → Bool} (hne : t ≠ [])
    (h : ∀ c ∈ t, cls c = true) : ((many1 cls).matchWhole t).isSome = true :=
  isSome_matchWhole_of_reads (reads_many1 hne h (by simp))

/-- A whole text becomes what `replaceAll` gives. -/
theorem replaceAll_of_becomes {p : Pattern} {f : Match → Text}
    (h : p.Becomes f none t [] a) : p.replaceAll f t = a := by
  have hall := h 0
  rw [List.append_nil] at hall
  rw [replaceAll, hall]
  exact List.append_nil a

end SourceAtlas.Pattern
