/-
Stable sorting changes the order of the members and nothing else, and the
order it makes is the one it promises. A table that is listed column by column
is sorted row by row (`sortBy_columns`). Whoever needs to know what a sorted
output holds reads it off here and never unfolds the insertions.

Consumed by the theories of the survey, of tables and of finds in a text.
-/
import SourceAtlas.Ordered

namespace SourceAtlas.Ordered

variable {α : Type}

-- =========================================================== stable sorting

/-- Inserting by a comparison puts the item somewhere. -/
theorem insertBy_perm (le : α → α → Bool) (x : α) (items : List α) :
    (insertBy le x items).Perm (x :: items) := by
  induction items with
  | nil => exact List.Perm.refl _
  | cons y ys ih =>
      unfold insertBy
      split
      · exact List.Perm.refl _
      · exact (ih.cons y).trans (List.Perm.swap x y ys)

/-- Sorting rearranges. -/
theorem sortBy_perm (le : α → α → Bool) (items : List α) :
    (sortBy le items).Perm items := by
  unfold sortBy
  induction items with
  | nil => exact List.Perm.refl _
  | cons x rest ih =>
      rw [List.foldr_cons]
      exact (insertBy_perm le x _).trans (ih.cons x)

/-- Sorting keeps the members. -/
@[simp] theorem mem_sortBy {le : α → α → Bool} {a : α} {items : List α} :
    a ∈ sortBy le items ↔ a ∈ items :=
  (sortBy_perm le items).mem_iff

/-- Sorting what was changed in a way that the comparison does not see. -/
theorem sortBy_map {β : Type} {le : α → α → Bool} {le' : β → β → Bool}
    {f : α → β} (h : ∀ a b, le' (f a) (f b) = le a b) (items : List α) :
    sortBy le' (items.map f) = (sortBy le items).map f := by
  have hinsert (x : α) (rest : List α) :
      insertBy le' (f x) (rest.map f) = (insertBy le x rest).map f := by
    induction rest with
    | nil => rfl
    | cons y ys ih =>
        rw [List.map_cons, insertBy, insertBy, h, ih]
        split <;> rfl
  unfold sortBy
  induction items with
  | nil => rfl
  | cons x rest ih =>
      rw [List.map_cons, List.foldr_cons, List.foldr_cons, ih, hinsert]

/-- Inserting by a comparison keeps a list in its order. -/
theorem pairwise_insertBy {le : α → α → Bool}
    (htrans : ∀ a b c, le a b = true → le b c = true → le a c = true)
    (htotal : ∀ a b, le a b = true ∨ le b a = true) {x : α} {items : List α}
    (h : items.Pairwise (le · · = true)) :
    (insertBy le x items).Pairwise (le · · = true) := by
  induction items with
  | nil => exact List.pairwise_singleton _ _
  | cons y ys ih =>
      obtain ⟨hy, hys⟩ := List.pairwise_cons.mp h
      unfold insertBy
      split
      · next hxy =>
        refine List.pairwise_cons.mpr ⟨?_, h⟩
        intro b hb
        rcases List.mem_cons.mp hb with rfl | hb
        · exact hxy
        · exact htrans x y b hxy (hy b hb)
      · next hxy =>
        have hyx : le y x = true := (htotal x y).resolve_left hxy
        refine List.pairwise_cons.mpr ⟨?_, ih hys⟩
        intro b hb
        rcases List.mem_cons.mp ((insertBy_perm le x ys).mem_iff.mp hb) with rfl
          | hb
        · exact hyx
        · exact hy b hb

/-- Sorting puts a list in order. -/
theorem pairwise_sortBy {le : α → α → Bool}
    (htrans : ∀ a b c, le a b = true → le b c = true → le a c = true)
    (htotal : ∀ a b, le a b = true ∨ le b a = true) (items : List α) :
    (sortBy le items).Pairwise (le · · = true) := by
  unfold sortBy
  induction items with
  | nil => exact List.Pairwise.nil
  | cons x rest ih =>
      rw [List.foldr_cons]
      exact pairwise_insertBy htrans htotal ih

-- ===================================================== sorting by columns

/-- What may precede all the rest goes to the front. -/
theorem foldr_insertBy_of_le {le : α → α → Bool} {front items : List α}
    (hfront : front.Pairwise (le · · = true))
    (h : ∀ x ∈ front, ∀ y ∈ items, le x y = true) :
    front.foldr (insertBy le) items = front ++ items := by
  induction front with
  | nil => rfl
  | cons x front ih =>
      obtain ⟨hx, hfront⟩ := List.pairwise_cons.mp hfront
      obtain ⟨hitems, hothers⟩ := List.forall_mem_cons.mp h
      rw [List.foldr_cons, ih hfront hothers]
      cases hall : front ++ items with
      | nil => rw [insertBy, List.cons_append, hall]
      | cons y ys =>
          have hle : le x y = true := by
            have hy : y ∈ front ++ items := by
              rw [hall]
              exact List.mem_cons_self
            rcases List.mem_append.mp hy with hy | hy
            · exact hx y hy
            · exact hitems y hy
          rw [insertBy, if_pos hle, List.cons_append, hall]

/-- A list that is in order stays as it is. -/
theorem sortBy_of_pairwise {le : α → α → Bool} {items : List α}
    (h : items.Pairwise (le · · = true)) : sortBy le items = items := by
  have hsorted : items.foldr (insertBy le) [] = items ++ [] :=
    foldr_insertBy_of_le h (by simp)
  rwa [List.append_nil] at hsorted

/-- What may not precede the front stays behind it. -/
theorem foldr_insertBy_append {le : α → α → Bool} {late front items : List α}
    (h : ∀ x ∈ late, ∀ y ∈ front, le x y = false) :
    late.foldr (insertBy le) (front ++ items)
      = front ++ late.foldr (insertBy le) items := by
  have hone {x : α} (hx : ∀ y ∈ front, le x y = false) (items : List α) :
      insertBy le x (front ++ items) = front ++ insertBy le x items := by
    induction front with
    | nil => rfl
    | cons y front ih =>
        obtain ⟨hy, hfront⟩ := List.forall_mem_cons.mp hx
        have hrest :=
          ih (fun x hx z hz => h x hx z (List.mem_cons_of_mem y hz)) hfront
        rw [List.cons_append, insertBy, if_neg (by simp [hy]), hrest,
          List.cons_append]
  induction late with
  | nil => rfl
  | cons x late ih =>
      obtain ⟨hx, hlate⟩ := List.forall_mem_cons.mp h
      rw [List.foldr_cons, ih hlate, hone hx, List.foldr_cons]

section Columns

variable {κ ι : Type} {le : α → α → Bool} {rows : List κ} {columns : List ι}
  {cell : ι → κ → List α}

/-- One row, if all the others come after it: the row is sorted to the front,
whatever the columns. -/
theorem sortBy_flatMap_append {first later : ι → List α}
    (hfirst : (columns.flatMap first).Pairwise (le · · = true))
    (hlater : ∀ i ∈ columns, ∀ j ∈ columns, ∀ x ∈ first i, ∀ y ∈ later j,
      le x y = true ∧ le y x = false) :
    sortBy le (columns.flatMap fun i => first i ++ later i)
      = columns.flatMap first ++ sortBy le (columns.flatMap later) := by
  induction columns with
  | nil => rfl
  | cons i columns ih =>
      rw [List.flatMap_cons, List.pairwise_append] at hfirst
      obtain ⟨hone, hfirst, hcross⟩ := hfirst
      have hrest := ih hfirst fun j hj k hk =>
        hlater j (List.mem_cons_of_mem i hj) k (List.mem_cons_of_mem i hk)
      have hsort (xs ys : List α) : sortBy le (xs ++ ys)
          = xs.foldr (insertBy le) (sortBy le ys) :=
        List.foldr_append
      rw [List.flatMap_cons, List.flatMap_cons, List.flatMap_cons,
        List.append_assoc, hsort, hsort, hrest, hsort, foldr_insertBy_append,
        foldr_insertBy_of_le hone, List.append_assoc]
      · -- the cells of this column precede those of the row and all later ones
        intro x hx y hy
        rcases List.mem_append.mp hy with hy | hy
        · exact hcross x hx y hy
        · rw [← hsort, ← List.flatMap_cons (f := later), mem_sortBy] at hy
          obtain ⟨j, hj, hy⟩ := List.mem_flatMap.mp hy
          exact (hlater i List.mem_cons_self j hj x hx y hy).1
      · intro y hy x hx
        obtain ⟨j, hj, hx⟩ := List.mem_flatMap.mp hx
        exact (hlater j (List.mem_cons_of_mem i hj) i List.mem_cons_self
          x hx y hy).2

/-- A table that is listed column by column is sorted row by row, if each row
comes before all later ones. -/
theorem sortBy_columns
    (hrow :
      ∀ r ∈ rows, (columns.flatMap fun i => cell i r).Pairwise (le · · = true))
    (hrows : rows.Pairwise fun r s =>
      ∀ i j, ∀ x ∈ cell i r, ∀ y ∈ cell j s, le x y = true ∧ le y x = false) :
    sortBy le (columns.flatMap fun i => rows.flatMap (cell i))
      = rows.flatMap fun r => columns.flatMap fun i => cell i r := by
  induction rows with
  | nil =>
      have hnone : (columns.flatMap fun _ => ([] : List α)) = [] := by simp
      exact (congrArg (sortBy le) hnone).trans rfl
  | cons r rows ih =>
      obtain ⟨hlater, hrows⟩ := List.pairwise_cons.mp hrows
      obtain ⟨hfirst, hrow⟩ := List.forall_mem_cons.mp hrow
      have hrest := ih hrow hrows
      simp only [List.flatMap_cons]
      rw [sortBy_flatMap_append hfirst, hrest]
      intro i _ j _ x hx y hy
      obtain ⟨s, hs, hy⟩ := List.mem_flatMap.mp hy
      exact hlater s hs i j x hx y hy

end Columns

end SourceAtlas.Ordered
