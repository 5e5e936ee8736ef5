/-
Sorted lists. A set is kept as the strictly increasing list of its members,
so two sets that were filled in different ways are equal as soon as they hold
the same (`eq_of_mem_iff`); a stable sort orders other lists by a given
comparison. Both insert one item at a time.

Consumed by the accumulators, the file survey and every sorted output.
-/
import SourceAtlas.Text.Basic

namespace SourceAtlas.Ordered

variable {α : Type}

/-- Puts an item at its place in a strictly increasing list, unless it is
there already. -/
def insert [LT α] [DecidableLT α] [DecidableEq α] (x : α) : List α → List α
  | [] => [x]
  | y :: ys =>
    if x < y then x :: y :: ys
    else if x = y then y :: ys
    else y :: insert x ys

/-- Adds items to a strictly increasing list. -/
def insertAll [LT α] [DecidableLT α] [DecidableEq α] (items set : List α) :
    List α :=
  items.foldl (fun acc x => insert x acc) set

/-- The strictly increasing list of the members of a list. -/
def ofList [LT α] [DecidableLT α] [DecidableEq α] (items : List α) : List α :=
  insertAll items []

/-- Puts an item before the first one that it may precede. -/
def insertBy (le : α → α → Bool) (x : α) : List α → List α
  | [] => [x]
  | y :: ys => if le x y then x :: y :: ys else y :: insertBy le x ys

/-- The list in the order of `le`; items that compare equal keep their
order. -/
def sortBy (le : α → α → Bool) (items : List α) : List α :=
  items.foldr (insertBy le) []

-- =================================================== orders by a key

section Keys

variable {κ : Type} [LT α] [LT κ] {key : α → κ}

/-- What is compared by a key is compared transitively. -/
theorem lt_trans_of_key
    [Trans (fun a b : κ => a < b) (fun a b => a < b) (fun a b => a < b)]
    (hlt : ∀ a b : α, a < b ↔ key a < key b) {a b c : α} (hab : a < b)
    (hbc : b < c) : a < c :=
  (hlt a c).mpr (Std.lt_trans ((hlt a b).mp hab) ((hlt b c).mp hbc))

/-- What is compared by a key is not compared both ways. -/
theorem asymm_of_key [Std.Asymm fun a b : κ => a < b]
    (hlt : ∀ a b : α, a < b ↔ key a < key b) : Std.Asymm fun a b : α => a < b :=
  ⟨fun a b hab hba => Std.Asymm.asymm _ _ ((hlt a b).mp hab) ((hlt b a).mp hba)⟩

/-- What is compared by a key of its own is compared one way at least. -/
theorem trichotomous_of_key [Std.Trichotomous fun a b : κ => a < b]
    (hlt : ∀ a b : α, a < b ↔ key a < key b)
    (hkey : ∀ a b, key a = key b → a = b) :
    Std.Trichotomous fun a b : α => a < b := by
  refine ⟨fun a b hab hba => hkey a b ?_⟩
  rw [hlt] at hab hba
  exact Std.Trichotomous.trichotomous _ _ hab hba

/-- Two texts in a row are compared by the first, then by the second. -/
theorem pair_lt_pair_iff {a b c d : Text} :
    [a, b] < [c, d] ↔ a < c ∨ (a = c ∧ b < d) := by
  rw [List.cons_lt_cons_iff, List.cons_lt_cons_iff]
  simp only [List.lt_irrefl, and_false, or_false]

end Keys

-- ================================================ strictly increasing lists

section Sets

variable [LT α] [DecidableLT α] [DecidableEq α]

/-- Inserting an item adds that item. -/
@[simp] theorem mem_insert {a x : α} {set : List α} :
    a ∈ insert x set ↔ a = x ∨ a ∈ set := by
  induction set with
  | nil => simp [insert]
  | cons y ys ih =>
      unfold insert
      split
      · exact List.mem_cons
      · split
        · next hxy =>
          subst hxy
          simp
        · rw [List.mem_cons, ih, List.mem_cons, or_left_comm]

/-- Inserting some items adds those items. -/
@[simp] theorem mem_insertAll {a : α} {items set : List α} :
    a ∈ insertAll items set ↔ a ∈ items ∨ a ∈ set := by
  unfold insertAll
  induction items generalizing set with
  | nil => simp
  | cons x rest ih =>
      rw [List.foldl_cons, ih, mem_insert, List.mem_cons,
        or_left_comm, or_assoc]

/-- Collecting a list keeps its members. -/
@[simp] theorem mem_ofList {a : α} {items : List α} :
    a ∈ ofList items ↔ a ∈ items := by
  unfold ofList
  rw [mem_insertAll]
  simp

end Sets

section Increasing

variable [LT α] [DecidableLT α] [DecidableEq α]

section Order

variable [Trans (fun a b : α => a < b) (fun a b => a < b) (fun a b => a < b)]
  [Std.Trichotomous fun a b : α => a < b]

/-- Inserting an item keeps a list strictly increasing. -/
theorem pairwise_insert {x : α} {set : List α} (h : set.Pairwise (· < ·)) :
    (insert x set).Pairwise (· < ·) := by
  induction set with
  | nil => exact List.pairwise_singleton _ _
  | cons y ys ih =>
      obtain ⟨hy, hys⟩ := List.pairwise_cons.mp h
      unfold insert
      split
      · next hxy =>
        refine List.pairwise_cons.mpr ⟨?_, h⟩
        intro b hb
        rcases List.mem_cons.mp hb with rfl | hb
        · exact hxy
        · exact Std.lt_trans hxy (hy b hb)
      · next hxy =>
        split
        · exact h
        · next hne =>
          have hyx : y < x := by
            by_cases hlt : y < x
            · exact hlt
            · exact absurd (Std.Trichotomous.trichotomous x y hxy hlt) hne
          refine List.pairwise_cons.mpr ⟨?_, ih hys⟩
          intro b hb
          rcases mem_insert.mp hb with rfl | hb
          · exact hyx
          · exact hy b hb

/-- Inserting some items keeps a list strictly increasing. -/
theorem pairwise_insertAll {items set : List α} (h : set.Pairwise (· < ·)) :
    (insertAll items set).Pairwise (· < ·) := by
  unfold insertAll
  induction items generalizing set with
  | nil => exact h
  | cons x rest ih =>
      rw [List.foldl_cons]
      exact ih (pairwise_insert h)

/-- Collecting a list makes it strictly increasing. -/
theorem pairwise_ofList (items : List α) : (ofList items).Pairwise (· < ·) :=
  pairwise_insertAll List.Pairwise.nil

end Order

variable [Std.Asymm fun a b : α => a < b]

omit [DecidableLT α] [DecidableEq α] in
/-- Nothing stands twice in a strictly increasing list. -/
theorem nodup_of_pairwise {set : List α} (h : set.Pairwise (· < ·)) :
    set.Nodup := by
  refine h.imp ?_
  intro a b hab heq
  subst heq
  exact Std.Asymm.asymm a a hab hab

omit [DecidableLT α] [DecidableEq α] in
/-- Strictly increasing lists with the same members are equal. -/
theorem eq_of_mem_iff {s t : List α} (hs : s.Pairwise (· < ·))
    (ht : t.Pairwise (· < ·)) (h : ∀ a, a ∈ s ↔ a ∈ t) : s = t := by
  have hperm : s.Perm t :=
    (List.perm_ext_iff_of_nodup (nodup_of_pairwise hs)
      (nodup_of_pairwise ht)).mpr h
  refine hperm.eq_of_pairwise ?_ hs ht
  intro a b _ _ hab hba
  exact absurd hba (Std.Asymm.asymm a b hab)

end Increasing

end SourceAtlas.Ordered
