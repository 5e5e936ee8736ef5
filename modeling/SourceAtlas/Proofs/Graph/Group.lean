/-
Grouping: the member of each item is appended to the list that a table holds
for the item's key. The adjacency view groups edges by source, and the
clusters group files by directory, so both are read off here.

The entry of a key lists the members of the items of that key, in their order
(`mem_entries_group`). Keys stand in the order in which they first appear, so
they are increasing if the items are listed by key (`pairwise_keys_group`).

Consumed by the theories of the adjacency view and of the clusters.
-/
import Mathlib.Data.List.Induction
import SourceAtlas.Graph.Basic
import SourceAtlas.Proofs.Table

namespace SourceAtlas.DependencyGraph

variable {ι : Type} {key member : ι → Text} {items : List ι} {k : Text} {i : ι}

/-- The members of some items, each under the key of its item. -/
def group (key member : ι → Text) (items : List ι) : Table (List Text) :=
  items.foldl (fun t i => appendTo t (key i) (member i)) .empty

/-- The members of the items of one key. -/
def membersOf (key member : ι → Text) (items : List ι) (k : Text) : List Text :=
  (items.filter fun i => key i = k).map member

theorem group_concat : group key member (items ++ [i])
    = appendTo (group key member items) (key i) (member i) :=
  List.foldl_append

/-- The last item adds its member to those of its key. -/
theorem membersOf_concat : membersOf key member (items ++ [i]) k
    = membersOf key member items k ++ if key i = k then [member i] else [] := by
  unfold membersOf
  rw [List.filter_append, List.map_append]
  by_cases hk : key i = k <;> simp [hk]

/-- A key has members exactly if it is the key of an item. -/
theorem membersOf_eq_nil_iff :
    membersOf key member items k = [] ↔ k ∉ items.map key := by
  unfold membersOf
  simp

/-- Members of a key are those of the items with that key. -/
theorem mem_membersOf {m : Text} :
    m ∈ membersOf key member items k
      ↔ ∃ i ∈ items, key i = k ∧ member i = m := by
  unfold membersOf
  simp [and_assoc]

/-- Under a key stand the members of its items. -/
theorem get?_group (k : Text) : (group key member items).get? k
    = if k ∈ items.map key then some (membersOf key member items k)
      else none := by
  induction items using List.reverseRecOn with
  | nil => rfl
  | append_singleton items i ih =>
      rw [group_concat, appendTo, Table.get?_put, membersOf_concat]
      by_cases hk : k = key i
      · subst hk
        -- what the table lists so far, which is nothing for a new key
        have hold : ((group key member items).get? (key i)).getD []
            = membersOf key member items (key i) := by
          rw [ih]
          split
          case isTrue => rfl
          case isFalse hnew => exact (membersOf_eq_nil_iff.mpr hnew).symm
        rw [if_pos rfl, if_pos (by simp), if_pos rfl, hold]
      · rw [if_neg hk, if_neg (Ne.symm hk), List.append_nil, ih]
        simp [hk]

/-- Keys of a group are those of the items. -/
theorem mem_keys_group :
    k ∈ (group key member items).keys ↔ k ∈ items.map key := by
  have hnone : k ∉ (group key member items).keys ↔ k ∉ items.map key := by
    rw [← Table.get?_eq_none_iff, get?_group]
    split <;> simp_all
  exact not_iff_not.mp hnone

/-- The entries are the keys of the items, each with the members of its
items. -/
theorem mem_entries_group {entry : Text × List Text} :
    entry ∈ (group key member items).entries
      ↔ entry.1 ∈ items.map key
        ∧ entry.2 = membersOf key member items entry.1 := by
  obtain ⟨k, members⟩ := entry
  rw [← Table.get?_eq_some_iff, get?_group, Option.ite_none_right_eq_some,
    Option.some.injEq, eq_comm]

/-- The lists of the entries hold the members of all items. -/
theorem exists_mem_entries_group (hi : i ∈ items) :
    ∃ entry ∈ (group key member items).entries, entry.1 = key i
      ∧ member i ∈ entry.2 :=
  ⟨(key i, membersOf key member items (key i)),
    mem_entries_group.mpr ⟨List.mem_map_of_mem hi, rfl⟩, rfl,
    mem_membersOf.mpr ⟨i, hi, rfl, rfl⟩⟩

/-- No list of an entry is empty. -/
theorem ne_nil_of_mem_entries_group {entry : Text × List Text}
    (h : entry ∈ (group key member items).entries) : entry.2 ≠ [] := by
  obtain ⟨hkey, hmembers⟩ := mem_entries_group.mp h
  rw [hmembers, Ne, membersOf_eq_nil_iff]
  exact not_not_intro hkey

/-- Items that are listed by key give increasing keys. -/
theorem pairwise_keys_group (h : items.Pairwise fun i j => ¬ key j < key i) :
    (group key member items).keys.Pairwise (· < ·) := by
  induction items using List.reverseRecOn with
  | nil => exact List.Pairwise.nil
  | append_singleton items i ih =>
      obtain ⟨hitems, -, hlast⟩ := List.pairwise_append.mp h
      rw [group_concat, appendTo, Table.keys_put]
      split
      case isTrue => exact ih hitems
      case isFalse hnew =>
        refine List.pairwise_append.mpr
          ⟨ih hitems, List.pairwise_singleton _ _, ?_⟩
        intro k hk k' hk'
        rw [List.mem_singleton.mp hk']
        obtain ⟨j, hj, rfl⟩ := List.mem_map.mp (mem_keys_group.mp hk)
        -- the last key is not smaller than an earlier one, and is none of them
        apply Classical.byContradiction
        intro hlt
        have hsame : key j = key i :=
          List.le_antisymm (List.not_lt.mp
            (hlast j hj i (List.mem_singleton_self i))) (List.not_lt.mp hlt)
        exact hnew (hsame ▸ hk)

/-- The members of a key stand in the order of the items. -/
theorem pairwise_membersOf
    (h : items.Pairwise fun i j => key i = key j → member i < member j)
    (k : Text) : (membersOf key member items k).Pairwise (· < ·) := by
  unfold membersOf
  rw [List.pairwise_map, List.pairwise_filter]
  refine h.imp ?_
  intro i j hlt hi hj
  exact hlt ((of_decide_eq_true hi).trans (of_decide_eq_true hj).symm)

end SourceAtlas.DependencyGraph
