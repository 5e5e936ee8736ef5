/-
Lists in a text: items with commas between them, and with gaps around them that
say nothing. What a gap may be is a parameter, since some lists allow comments
in it; a comma may stand behind the last item.

- Without the blanks at its ends a list whose gaps are blanks is still one
  (`Listed.trim`).
- The pieces between the commas are the items with gaps around them, so a
  reading of pieces that does not mind gaps reads the items
  (`Listed.filterMap_split`).

Consumed by the theories of name lists, of export lists and of the names that
a module declares.
-/
import SourceAtlas.Proofs.Text.Blank
import SourceAtlas.Proofs.Text.Squeeze

namespace SourceAtlas.Text

/-- Items with gaps around them and commas between them; a comma may stand
behind the last item as well. -/
inductive Listed (gap : Text → Prop) : List Text → Text → Prop where
  | one (item : Text) {before after : Text} (hbefore : gap before)
      (hafter : gap after) : Listed gap [item] (before ++ item ++ after)
  | last (item : Text) {before after behind : Text} (hbefore : gap before)
      (hafter : gap after) (hbehind : gap behind) :
      Listed gap [item] (before ++ item ++ after ++ ',' :: behind)
  | cons (item : Text) {items : List Text} {before after t : Text}
      (hbefore : gap before) (hafter : gap after) (h : Listed gap items t) :
      Listed gap (item :: items) (before ++ item ++ after ++ ',' :: t)

/-- The same with no items allowed. -/
inductive Enumerated (gap : Text → Prop) : List Text → Text → Prop where
  | none {t : Text} (h : gap t) : Enumerated gap [] t
  | some {items : List Text} {t : Text} (h : Listed gap items t) :
      Enumerated gap items t

variable {c : Char} {t : Text} {items : List Text} {gap gap' : Text → Prop}

/-- What stands neither in gaps nor in items does not stand in a list. -/
theorem Listed.not_mem (h : Listed gap items t) (hgap : ∀ g, gap g → c ∉ g)
    (hcomma : c ≠ ',') (hitems : ∀ item ∈ items, c ∉ item) : c ∉ t := by
  have hone {item before after : Text} (hi : c ∉ item) (hbefore : gap before)
      (hafter : gap after) : c ∉ before ++ item ++ after :=
    List.not_mem_append (List.not_mem_append (hgap before hbefore) hi)
      (hgap after hafter)
  induction h with
  | one item hbefore hafter =>
      exact hone (hitems item List.mem_cons_self) hbefore hafter
  | last item hbefore hafter hbehind =>
      exact List.not_mem_append
        (hone (hitems item List.mem_cons_self) hbefore hafter)
        (List.not_mem_cons_of_ne_of_not_mem hcomma (hgap _ hbehind))
  | cons item hbefore hafter _ ih =>
      obtain ⟨hi, hothers⟩ := List.forall_mem_cons.mp hitems
      exact List.not_mem_append (hone hi hbefore hafter)
        (List.not_mem_cons_of_ne_of_not_mem hcomma (ih hothers))

/-- A character that is in no item and no gap is not in the list. -/
theorem Enumerated.not_mem (h : Enumerated gap items t)
    (hgap : ∀ g, gap g → c ∉ g) (hcomma : c ≠ ',')
    (hitems : ∀ item ∈ items, c ∉ item) : c ∉ t := by
  cases h with
  | none h => exact hgap t h
  | some h => exact h.not_mem hgap hcomma hitems

/-- Gaps may be taken more generously in a list. -/
theorem Listed.mono (h : Listed gap items t)
    (hgap : ∀ g, gap g → gap' g) : Listed gap' items t := by
  induction h with
  | one item hbefore hafter => exact .one item (hgap _ hbefore) (hgap _ hafter)
  | last item hbefore hafter hbehind =>
      exact .last item (hgap _ hbefore) (hgap _ hafter) (hgap _ hbehind)
  | cons item hbefore hafter _ ih =>
      exact .cons item (hgap _ hbefore) (hgap _ hafter) ih

theorem Enumerated.mono (h : Enumerated gap items t)
    (hgap : ∀ g, gap g → gap' g) : Enumerated gap' items t := by
  cases h with
  | none h => exact .none (hgap t h)
  | some h => exact .some (h.mono hgap)

-- ================================================================ trimming

/-- Blanks before the first item may be set apart. -/
theorem Listed.exists_opens (h : Listed Blank items t)
    (hitems : ∀ item ∈ items, Opens item) :
    ∃ before t', t = before ++ t' ∧ Blank before ∧ Opens t'
      ∧ Listed Blank items t' := by
  cases h with
  | @one item before after hbefore hafter =>
      have hopens := hitems item List.mem_cons_self
      refine ⟨before, item ++ after, by rw [List.append_assoc], hbefore,
        hopens.append _, ?_⟩
      exact .one item blank_nil hafter
  | @last item before after behind hbefore hafter hbehind =>
      have hopens := hitems item List.mem_cons_self
      refine ⟨before, item ++ after ++ ',' :: behind,
        by simp only [List.append_assoc], hbefore,
        (hopens.append _).append _, ?_⟩
      exact .last item blank_nil hafter hbehind
  | @cons item items before after t hbefore hafter h =>
      have hopens := hitems item List.mem_cons_self
      refine ⟨before, item ++ after ++ ',' :: t,
        by simp only [List.append_assoc], hbefore,
        (hopens.append _).append _, ?_⟩
      exact .cons item blank_nil hafter h

theorem Listed.exists_closes (h : Listed Blank items t)
    (hitems : ∀ item ∈ items, Closes item) :
    ∃ t' after, t = t' ++ after ∧ Blank after ∧ Closes t'
      ∧ Listed Blank items t' := by
  induction h with
  | @one item before after hbefore hafter =>
      have hcloses := hitems item List.mem_cons_self
      refine ⟨before ++ item, after, rfl, hafter, hcloses.append before, ?_⟩
      simpa only [List.append_nil] using Listed.one item hbefore blank_nil
  | @last item before after behind hbefore hafter hbehind =>
      refine ⟨before ++ item ++ after ++ [','], behind, by simp, hbehind,
        ⟨before ++ item ++ after, ',', rfl, by decide⟩, ?_⟩
      exact .last item hbefore hafter blank_nil
  | @cons item items before after t hbefore hafter _ ih =>
      obtain ⟨t', behind, rfl, hbehind, hcloses, h⟩ :=
        ih (List.forall_mem_cons.mp hitems).2
      refine ⟨before ++ item ++ after ++ ',' :: t',
        behind, by simp, hbehind, ?_, .cons item hbefore hafter h⟩
      exact Closes.append (b := [','] ++ t') (hcloses.append [',']) _

/-- Without the blanks around it a list is still one. -/
theorem Listed.trim (h : Listed Blank items t)
    (hopens : ∀ item ∈ items, Opens item)
    (hcloses : ∀ item ∈ items, Closes item) : Listed Blank items (trim t) := by
  obtain ⟨before, t, rfl, hbefore, hopens, h⟩ := h.exists_opens hopens
  obtain ⟨t', after, rfl, hafter, hcloses, h'⟩ := h.exists_closes hcloses
  obtain ⟨c, rest, hc, hblank⟩ := hopens
  -- what is left does not start with a blank either, since it is not empty
  have hopens' : Opens t' := by
    obtain ⟨front, d, rfl, -⟩ := hcloses
    cases front with
    | nil =>
        exact ⟨d, [], rfl, by rw [(List.cons_eq_cons.mp hc).1]; exact hblank⟩
    | cons e front =>
        exact ⟨e, _, rfl, by rw [(List.cons_eq_cons.mp hc).1]; exact hblank⟩
  rw [← List.append_assoc, trim_append hbefore hopens' hcloses hafter]
  exact h'

-- ================================================================== pieces

/-- A reading of the pieces between commas that does not mind gaps reads the
items. -/
theorem Listed.filterMap_split {g : Text → Option Text} (h : Listed gap items t)
    (hgap : ∀ u, gap u → ',' ∉ u) (hcomma : ∀ item ∈ items, ',' ∉ item)
    (hitem : ∀ item ∈ items, ∀ before after, gap before → gap after
      → g (before ++ item ++ after) = g item)
    (hnone : ∀ u, gap u → g u = none) :
    (split ',' t).filterMap g = items.filterMap g := by
  have hpiece {item before after : Text} (hi : ',' ∉ item)
      (hbefore : gap before) (hafter : gap after) :
      ',' ∉ before ++ item ++ after :=
    List.not_mem_append (List.not_mem_append (hgap before hbefore) hi)
      (hgap after hafter)
  induction h with
  | one item hbefore hafter =>
      obtain ⟨hi, -⟩ := List.forall_mem_cons.mp hcomma
      rw [split_of_not_mem (hpiece hi hbefore hafter), List.filterMap_cons,
        hitem item List.mem_cons_self _ _ hbefore hafter, ← List.filterMap_cons]
  | last item hbefore hafter hbehind =>
      obtain ⟨hi, -⟩ := List.forall_mem_cons.mp hcomma
      -- Behind the comma at the end is a piece without an item.
      have hlast : [_].filterMap g = [] :=
        List.filterMap_cons_none (hnone _ hbehind)
      rw [split_append_cons, split_of_not_mem (hpiece hi hbefore hafter),
        split_of_not_mem (hgap _ hbehind), List.filterMap_append, hlast,
        List.append_nil, List.filterMap_cons,
        hitem item List.mem_cons_self _ _ hbefore hafter, ← List.filterMap_cons]
  | @cons item items before after t hbefore hafter _ ih =>
      obtain ⟨hi, hothers⟩ := List.forall_mem_cons.mp hcomma
      have hrest := ih hothers (List.forall_mem_cons.mp hitem).2
      have hfirst : [before ++ item ++ after].filterMap g
          = [item].filterMap g := by
        simp only [List.filterMap_cons,
          hitem item List.mem_cons_self _ _ hbefore hafter]
      rw [split_append_cons, split_of_not_mem (hpiece hi hbefore hafter),
        List.filterMap_append, hrest, hfirst, ← List.filterMap_append,
        List.singleton_append]

-- ============================================================== duplicates

/-- Where no text is empty, duplicates are all that is dropped. -/
theorem dedupe_eq_eraseDups {items : List Text}
    (h : ∀ item ∈ items, item ≠ []) : dedupe items = items.eraseDups := by
  have hall : (items.filter fun item => !item.isEmpty) = items := by
    rw [List.filter_eq_self]
    intro item hitem
    simpa using h item hitem
  rw [dedupe, hall]

end SourceAtlas.Text
