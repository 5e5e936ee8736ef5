/-
Where type declarations are reported. In all four languages a declaration is
looked for at the start of a line, and its match ends with the name or with
an opening parenthesis, never with a line feed. So each match stands on lines
of its own (`namesByLine`), however many lines the blanks between keyword and
name run over, and the names are found line by line. Leaving out the names
that were found before keeps that order.
-/
import SourceAtlas.TypeDeclaration
import SourceAtlas.Proofs.Pattern.Located

namespace SourceAtlas

-- ================================================================= names

namespace Pattern

variable {p q lead tail : Pattern} {slot : Slot} {behind : Option Char}
  {w rest : Text} {first more : Char → Bool} {c : Cursor} {m : Match}

/-- A name: one character of a class, then any number of another one. -/
theorem consumes_name (slot : Slot) (first more : Char → Bool) :
    (group slot (char first ++ many more)).Consumes :=
  (consumes_char first).append_left (many more)

/-- A name is not empty and stays on its line. -/
theorem name_of_spans (hfirst : first '\n' = false) (hmore : more '\n' = false)
    (h : (char first ++ many more).Spans behind w rest) :
    w ≠ [] ∧ '\n' ∉ w := by
  obtain ⟨_, v, rfl, ⟨x, rfl, hx⟩, hv⟩ := h
  refine ⟨List.cons_ne_nil x v, fun hfeed => ?_⟩
  rcases List.mem_cons.mp hfeed with rfl | hfeed
  · rw [hfirst] at hx
    cases hx
  · have hcls := hv _ hfeed
    rw [hmore] at hcls
    cases hcls

/-- Behind an anchor one of two alternatives is matched. -/
theorem matchAt_anchor_alt {a : Anchor}
    (h : (anchor a ++ alt p q).matchAt c = some m) :
    p.matchAt c = some m ∨ q.matchAt c = some m := by
  have h : (if a.holds c then (alt p q).matchAt c else none) = some m := h
  split at h
  · exact eq_some_of_orElse h
  · cases h

/-- A match with a name in it names it, and ends with it or with what
follows. -/
theorem exists_name_of_matchAt (lead tail : Pattern)
    (hlead : lead.isPlain = true) (htail : tail.isPlain = true)
    (hend : ∀ behind s rest, tail.Spans behind s rest → s.getLast? ≠ some '\n')
    (hfirst : first '\n' = false) (hmore : more '\n' = false)
    (h : (lead ++ group slot (char first ++ many more) ++ tail).matchAt c
      = some m) :
    ∃ v w s rest, Places slot c m v w s rest ∧ '\n' ∉ w
      ∧ m.text.getLast? ≠ some '\n' := by
  obtain ⟨v, w, s, rest, hplaces, -, hname, hs⟩ :=
    exists_places hlead rfl htail h
  obtain ⟨hne, hfeed⟩ := name_of_spans hfirst hmore hname
  refine ⟨v, w, s, rest, hplaces, hfeed, ?_⟩
  rw [hplaces.text, List.getLast?_append, List.getLast?_append]
  cases hlast : s.getLast? with
  | some y =>
      rw [Option.some_or, Option.some_or, ← hlast]
      exact hend _ _ _ hs
  | none =>
      rw [Option.none_or, List.getLast?_eq_some_getLast hne, Option.some_or]
      intro heq
      exact hfeed (Option.some.inj heq ▸ List.getLast_mem hne)

/-- The same for a match that ends with its name. -/
theorem exists_last_name_of_matchAt (hlead : lead.isPlain = true)
    (hfirst : first '\n' = false) (hmore : more '\n' = false)
    (h : (lead ++ group slot (char first ++ many more)).matchAt c = some m) :
    ∃ v w s rest, Places slot c m v w s rest ∧ '\n' ∉ w
      ∧ m.text.getLast? ≠ some '\n' := by
  refine exists_name_of_matchAt lead empty hlead rfl
    (fun behind s rest hs => ?_) hfirst hmore h
  rw [show s = [] from hs]
  nofun

end Pattern

namespace TypeDeclaration

open Pattern Export
open Text (OnLine)

variable {text name : Text} {line : Nat}

/-- Type declarations of scripts name a type on one line. -/
theorem namesByLine_scriptType : NamesByLine scriptType .name where
  lineBound :=
    (((((((lineBound_lineStart.append _).append _).append _).append _).append
      _).append _).append _)
  consumes := .append_right _ (consumes_name _ _ _)
  names := fun _ _ h =>
    exists_last_name_of_matchAt rfl (by decide) (by decide) h

theorem namesByLine_goType : NamesByLine goType .name where
  lineBound := ((((lineBound_lineStart.append _).append _).append _).append _)
  consumes := (Consumes.append_right _ (consumes_name _ _ _)).append_left _
  names := fun _ _ h =>
    exists_name_of_matchAt _ _ rfl rfl (fun _ _ _ hs => by rw [hs.1]; nofun)
      (by decide) (by decide) h

theorem namesByLine_rustType : NamesByLine rustType .name where
  lineBound :=
    (((((lineBound_lineStart.append (many Text.isInline)).append _).append
      _).append _).append _)
  consumes := .append_right _ (consumes_name _ _ _)
  names := fun _ _ h =>
    exists_last_name_of_matchAt rfl (by decide) (by decide) h

/-- What stands between a name and the arguments of the call it is bound to. -/
def callOpening : Pattern :=
  blanks ++ lit "=" ++ blanks ++ opt (lit "typing.")
    ++ anyOf ["TypedDict", "NamedTuple", "NewType"] ++ blanks ++ lit "("

theorem namesByLine_pythonType : NamesByLine pythonType .name where
  lineBound := lineBound_lineStart.append _
  consumes := by
    refine .append_right _ (.alt (.append_right _ (consumes_name _ _ _)) ?_)
    exact (((((((consumes_name _ _ _).append_left _).append_left _).append_left
      _).append_left _).append_left _).append_left _).append_left _
  names := fun _ _ h => by
    rcases matchAt_anchor_alt h with h | h
    · exact exists_last_name_of_matchAt rfl (by decide) (by decide) h
    · refine exists_name_of_matchAt empty callOpening rfl rfl ?_ (by decide)
        (by decide) h
      rintro behind s rest ⟨before, paren, rfl, -, hparen⟩
      rw [spans_lit.mp hparen, List.getLast?_append]
      nofun

theorem namesByLine (l : Language) : NamesByLine (pattern l) .name := by
  cases l with
  | script => exact namesByLine_scriptType
  | python => exact namesByLine_pythonType
  | go => exact namesByLine_goType
  | rust => exact namesByLine_rustType

-- ===================================================== the first of a name

/-- Keeping the first of each name adds nothing. -/
theorem firstPerName_sublist (pairs : List (Text × Nat)) :
    (firstPerName pairs).Sublist pairs := by
  induction pairs with
  | nil => exact .slnil
  | cons pair rest ih => exact (List.filter_sublist.trans ih).cons_cons pair

theorem nodup_firstPerName (pairs : List (Text × Nat)) :
    ((firstPerName pairs).map (·.1)).Nodup := by
  induction pairs with
  | nil => exact .nil
  | cons pair rest ih =>
      obtain ⟨first, n⟩ := pair
      rw [firstPerName, List.map_cons, List.nodup_cons]
      refine ⟨fun hmem => ?_, (List.filter_sublist.map _).nodup ih⟩
      obtain ⟨other, hother, heq⟩ := List.mem_map.mp hmem
      have hne := (List.mem_filter.mp hother).2
      rw [bne_iff_ne] at hne
      exact hne heq

/-- A name is kept with its first line. -/
theorem mem_firstPerName_iff {pairs : List (Text × Nat)} :
    (name, line) ∈ firstPerName pairs ↔ pairs.lookup name = some line := by
  induction pairs with
  | nil => simp [firstPerName]
  | cons pair rest ih =>
      obtain ⟨first, n⟩ := pair
      rw [firstPerName, List.mem_cons, List.mem_filter, ih, List.lookup_cons]
      by_cases hname : name = first
      · simp [hname, eq_comm]
      · rw [beq_eq_false_iff_ne.mpr hname]
        simp [hname]

-- ============================================================ the theorem

/-- In every language and every text, the declarations have different names,
on strictly increasing lines of the text, and each name stands on the line
that is reported for it; that is the line of its first match. Every match
declares a name, so a name that is matched is declared. -/
theorem declarations_are_located (l : Language) (text : Text) :
    ((declarations l text).map (·.1)).Nodup
      ∧ ((declarations l text).map (·.2)).Pairwise (· < ·)
      ∧ (∀ name line, (name, line) ∈ declarations l text →
          1 ≤ line ∧ line ≤ text.count '\n' + 1 ∧ OnLine text line name)
      ∧ (∀ name line, (name, line) ∈ declarations l text ↔
          FirstCaptured .name text ((pattern l).findAll text) name line)
      ∧ ∀ m ∈ (pattern l).findAll text, ∃ name line, m.get? .name = some name
          ∧ (name, line) ∈ declarations l text := by
  have hsub : (declarations l text).Sublist (located (pattern l) .name text) :=
    firstPerName_sublist (occurrences l text)
  have hmem : ∀ name line, (name, line) ∈ declarations l text ↔
      FirstCaptured .name text ((pattern l).findAll text) name line := by
    intro name line
    rw [← lookup_captured_eq_some_iff]
    exact mem_firstPerName_iff
  refine ⟨nodup_firstPerName _, ?_, fun name line h => ?_, hmem, fun m hm => ?_⟩
  · exact List.pairwise_map.mpr
      (((namesByLine l).pairwise_located text).sublist hsub)
  · have hon := (namesByLine l).onLine (hsub.subset h)
    exact ⟨hon.bounds.1, hon.bounds.2, hon⟩
  · obtain ⟨x, hx⟩ := (namesByLine l).exists_capture hm
    have hname : x.text ∈ (occurrences l text).map (·.1) :=
      List.mem_map.mpr ⟨(x.text, text.lineAt x.start),
        List.mem_filterMap.mpr ⟨m, hm, by rw [hx]; rfl⟩, rfl⟩
    have hget : m.get? .name = some x.text := by
      rw [Match.get?, hx]
      rfl
    -- A name that has been matched is found again by looking it up.
    cases hline : (occurrences l text).lookup x.text with
    | none =>
        obtain ⟨entry, hentry, heq⟩ := List.mem_map.mp hname
        have hne := List.lookup_eq_none_iff.mp hline entry hentry
        rw [bne_iff_ne, heq] at hne
        exact absurd rfl hne
    | some line => exact ⟨x.text, line, hget, mem_firstPerName_iff.mpr hline⟩

/-- Two declarations of one type, and blanks that run over a line. -/
def twiceDeclared : Text :=
  "type\n\nA = 1\nexport class B {}\ntype A = 2\n".toList

theorem declarations_are_located_twice :
    declarations .script twiceDeclared = [("A".toList, 3), ("B".toList, 4)]
      ∧ OnLine twiceDeclared 3 "A".toList := by
  have hdeclared : declarations .script twiceDeclared
      = [("A".toList, 3), ("B".toList, 4)] := by
    decide +kernel
  obtain ⟨-, -, honLine, -, -⟩ := declarations_are_located .script twiceDeclared
  refine ⟨hdeclared, (honLine "A".toList 3 ?_).2.2⟩
  rw [hdeclared]
  exact List.mem_cons_self

end TypeDeclaration

end SourceAtlas
