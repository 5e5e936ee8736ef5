/-
Tables through two views, the order of the keys and the value at a key.
Assigning changes the value at one key and nothing else, and gives the key a
place at the end only if it had none. A table is a finite map: it is determined
by the two views, and sorted by key it is determined by the second alone.

- `get?_put`, `keys_put`: what assigning does to the views.
- `get?_collect_last`: of some assignments the last one to a key counts.
- `sorted_eq_iff`: equal sorted listings are equal finite maps.

Consumed by the theories of the accumulators, of the index document, of concepts
and of handlers.
-/
import SourceAtlas.Table
import SourceAtlas.Proofs.Ordered

namespace SourceAtlas

/-- With names of their own, looking up and finding are the same. -/
theorem lookup_eq_some_iff {α : Type} {entries : List (Text × α)} {name : Text}
    {value : α} (h : (entries.map (·.1)).Nodup) :
    entries.lookup name = some value ↔ (name, value) ∈ entries := by
  induction entries with
  | nil => simp
  | cons entry rest ih =>
      obtain ⟨first, here⟩ := entry
      obtain ⟨hfresh, hnodup⟩ := List.nodup_cons.mp h
      rw [List.lookup_cons, List.mem_cons, Prod.mk.injEq]
      by_cases hn : name = first
      · subst hn
        have hout : (name, value) ∉ rest := fun hm =>
          hfresh (List.mem_map.mpr ⟨(name, value), hm, rfl⟩)
        simp [hout, eq_comm]
      · have hb : (name == first) = false := by simpa using hn
        simp only [hb, hn, false_and, false_or]
        exact ih hnodup

/-- Nothing is found exactly under the names that have no entry. -/
theorem lookup_eq_none_iff {α : Type} {entries : List (Text × α)}
    {name : Text} : entries.lookup name = none ↔ name ∉ entries.map (·.1) := by
  rw [List.lookup_eq_none_iff, List.mem_map, not_exists]
  refine forall_congr' fun entry => ?_
  rw [bne_iff_ne, not_and]
  refine imp_congr_right fun _ => ?_
  exact ne_comm

/-- Leaving out some names does not change what is said of the others. -/
theorem lookup_filter {α : Type} (keep : Text → Bool) (pairs : List (Text × α))
    (name : Text) :
    (pairs.filter fun pair => keep pair.1).lookup name
      = if keep name then pairs.lookup name else none := by
  induction pairs with
  | nil => simp
  | cons pair rest ih =>
      by_cases hkeep : keep pair.1 = true
      · rw [List.filter_cons_of_pos (by exact hkeep), List.lookup_cons, ih,
          List.lookup_cons]
        by_cases hname : name = pair.1
        · simp [hname, hkeep]
        · rw [beq_eq_false_iff_ne.mpr hname]
      · rw [List.filter_cons_of_neg (by exact hkeep), ih, List.lookup_cons]
        by_cases hname : name = pair.1
        · rw [hname, if_neg hkeep, if_neg hkeep]
        · rw [beq_eq_false_iff_ne.mpr hname]

/-- Leaving out one name does not change what is said of the others. -/
theorem lookup_filter_ne {α : Type} (pairs : List (Text × α))
    (gone name : Text) :
    (pairs.filter fun pair => pair.1 != gone).lookup name
      = if name = gone then none else pairs.lookup name := by
  rw [lookup_filter (· != gone)]
  by_cases hname : name = gone
  · simp [hname]
  · rw [if_pos (bne_iff_ne.mpr hname), if_neg hname]

/-- The first entry is the value at its own key and at no other one. -/
theorem lookup_cons_eq {α : Type} {key other : Text} {value : α}
    {rest : List (Text × α)} :
    ((key, value) :: rest).lookup other
      = if other = key then some value else rest.lookup other := by
  rw [List.lookup_cons]
  by_cases h : other = key
  · simp [h]
  · have hb : (other == key) = false := by simpa using h
    simp only [hb, if_neg h]

/-- Changing all values in one way changes the one that is found. -/
theorem lookup_map {α β : Type} (f : α → β) (pairs : List (Text × α))
    (name : Text) :
    (pairs.map fun pair => (pair.1, f pair.2)).lookup name
      = (pairs.lookup name).map f := by
  induction pairs with
  | nil => rfl
  | cons pair rest ih =>
      rw [List.map_cons, List.lookup_cons, List.lookup_cons, ih]
      split <;> rfl

/-- One text comes no later than another if it does not come after it. -/
theorem Text.le_iff {a b : Text} : Text.le a b = true ↔ ¬ b < a := by
  unfold Text.le
  rw [Bool.not_eq_true', decide_eq_false_iff_not]

theorem Text.le_trans {a b c : Text} (hab : Text.le a b = true)
    (hbc : Text.le b c = true) : Text.le a c = true := by
  have hac := List.le_trans (List.not_lt.mp (Text.le_iff.mp hab))
    (List.not_lt.mp (Text.le_iff.mp hbc))
  exact Text.le_iff.mpr (List.not_lt.mpr hac)

theorem Text.le_total (a b : Text) :
    Text.le a b = true ∨ Text.le b a = true := by
  rw [Text.le_iff, Text.le_iff, List.not_lt, List.not_lt]
  exact List.le_total a b

namespace Table

variable {α : Type} {t u : Table α} {key other : Text} {value : α}

-- =============================================================== entries

section Entries

variable {entries : List (Text × α)}

/-- Assigning changes the value at one key. -/
theorem lookup_putEntry (key other : Text) (value : α)
    (entries : List (Text × α)) :
    (putEntry key value entries).lookup other
      = if other = key then some value else entries.lookup other := by
  induction entries with
  | nil => exact lookup_cons_eq
  | cons entry rest ih =>
      obtain ⟨k, v⟩ := entry
      rw [putEntry]
      by_cases hk : k = key
      · subst hk
        rw [if_pos rfl, lookup_cons_eq, lookup_cons_eq]
        split
        · rfl
        · rfl
      · rw [if_neg hk, lookup_cons_eq, lookup_cons_eq, ih]
        by_cases ho : other = k
        · subst ho
          rw [if_pos rfl, if_neg hk, if_pos rfl]
        · rw [if_neg ho, if_neg ho]

/-- Assigning to a new key adds an entry. -/
theorem putEntry_of_notMem (h : key ∉ entries.map (·.1)) (value : α) :
    putEntry key value entries = entries ++ [(key, value)] := by
  induction entries with
  | nil => rfl
  | cons entry rest ih =>
      obtain ⟨k, v⟩ := entry
      obtain ⟨hk, hrest⟩ := not_or.mp (mt List.mem_cons.mpr h)
      rw [putEntry, if_neg (Ne.symm hk), ih hrest, List.cons_append]

/-- Assigning to a key that has a place changes its entry. -/
theorem putEntry_of_mem (hnodup : (entries.map (·.1)).Nodup)
    (h : key ∈ entries.map (·.1)) : putEntry key value entries
      = entries.map fun entry => if entry.1 = key then (entry.1, value)
        else entry := by
  induction entries with
  | nil => cases h
  | cons entry rest ih =>
      obtain ⟨k, v⟩ := entry
      obtain ⟨hfresh, hrest⟩ := List.nodup_cons.mp hnodup
      rw [putEntry, List.map_cons]
      by_cases hk : k = key
      · subst hk
        have hothers :
            rest.map (fun entry => if entry.1 = k then (entry.1, value)
              else entry) = rest := by
          refine (List.map_congr_left fun entry hentry =>
            if_neg fun heq => ?_).trans (List.map_id rest)
          exact hfresh (List.mem_map.mpr ⟨entry, hentry, heq⟩)
        rw [if_pos rfl, if_pos rfl, hothers]
      · rw [if_neg hk, if_neg hk]
        have hmem : key ∈ rest.map (·.1) :=
          (List.mem_cons.mp h).resolve_left (Ne.symm hk)
        rw [ih hrest hmem]

/-- The later of two assignments to a key counts. -/
theorem putEntry_putEntry (key : Text) (first second : α)
    (entries : List (Text × α)) :
    putEntry key second (putEntry key first entries)
      = putEntry key second entries := by
  induction entries with
  | nil => simp [putEntry]
  | cons entry rest ih =>
      obtain ⟨k, v⟩ := entry
      by_cases hk : k = key
      · simp [putEntry, hk]
      · simp [putEntry, hk, ih]

/-- Assigning the value that is there changes nothing. -/
theorem putEntry_eq_self (h : entries.lookup key = some value) :
    putEntry key value entries = entries := by
  induction entries with
  | nil => cases h
  | cons entry rest ih =>
      obtain ⟨k, v⟩ := entry
      rw [lookup_cons_eq] at h
      rw [putEntry]
      by_cases hk : k = key
      · rw [if_pos hk.symm, Option.some.injEq] at h
        rw [if_pos hk, h]
      · rw [if_neg (Ne.symm hk)] at h
        rw [if_neg hk, ih h]

/-- A key that has a place can be assigned before or after another one. -/
theorem putEntry_comm {here there : α} (hkey : key ∈ entries.map (·.1))
    (hne : other ≠ key) :
    putEntry key here (putEntry other there entries)
      = putEntry other there (putEntry key here entries) := by
  induction entries with
  | nil => cases hkey
  | cons entry rest ih =>
      obtain ⟨k, v⟩ := entry
      by_cases hk : k = key
      · subst hk
        simp [putEntry, hne.symm]
      · have hrest : key ∈ rest.map (·.1) := by
          rcases List.mem_cons.mp hkey with h | h
          · exact absurd h.symm hk
          · exact h
        by_cases ho : k = other
        · subst ho
          simp [putEntry, hk]
        · simp [putEntry, hk, ho, ih hrest]

end Entries

-- ================================================================= views

/-- Tables are equal if they have the same entries in the same order. -/
@[ext] theorem ext (h : t.entries = u.entries) : t = u := by
  cases t
  cases u
  simpa using h

theorem get?_empty (key : Text) : (empty : Table α).get? key = none := rfl

/-- The keys are those that have a value. -/
theorem get?_eq_none_iff : t.get? key = none ↔ key ∉ t.keys :=
  lookup_eq_none_iff

/-- The value at a key is that of its entry. -/
theorem get?_eq_some_iff : t.get? key = some value ↔ (key, value) ∈ t.entries :=
  lookup_eq_some_iff t.distinct

/-- No entry occurs twice. -/
theorem nodup_entries (t : Table α) : t.entries.Nodup :=
  List.Pairwise.of_map (·.1)
    (fun _ _ hne heq => hne (congrArg (·.1) heq)) t.distinct

-- ============================================================= assigning

/-- Assigning changes the value at one key. -/
@[simp] theorem get?_put (t : Table α) (key other : Text) (value : α) :
    (t.put key value).get? other = if other = key then some value
      else t.get? other :=
  lookup_putEntry key other value t.entries

/-- A new key gets a place at the end. -/
theorem keys_put (t : Table α) (key : Text) (value : α) :
    (t.put key value).keys = if key ∈ t.keys then t.keys else t.keys ++ [key] :=
  keys_putEntry key value t.entries

/-- A key that is assigned to has a place. -/
theorem mem_keys_put (t : Table α) (key : Text) (value : α) :
    key ∈ (t.put key value).keys := by
  rw [keys_put]
  split
  · assumption
  · exact List.mem_append_right _ (List.mem_singleton.mpr rfl)

/-- Assigning to a new key adds an entry. -/
theorem entries_put_of_notMem (h : key ∉ t.keys) (value : α) :
    (t.put key value).entries = t.entries ++ [(key, value)] :=
  putEntry_of_notMem h value

/-- Assigning to a key that has a place changes its entry. -/
theorem entries_put_of_mem (h : key ∈ t.keys) : (t.put key value).entries
    = t.entries.map fun entry => if entry.1 = key then (entry.1, value)
      else entry :=
  putEntry_of_mem t.distinct h

/-- The later of two assignments to a key counts. -/
theorem put_put (t : Table α) (key : Text) (first second : α) :
    (t.put key first).put key second = t.put key second :=
  ext (putEntry_putEntry key first second t.entries)

/-- Assigning the value that is there changes nothing. -/
theorem put_eq_self (h : t.get? key = some value) : t.put key value = t :=
  ext (putEntry_eq_self h)

/-- A key that has a place can be assigned before or after another one. -/
theorem put_comm {here there : α} (hkey : key ∈ t.keys) (hne : other ≠ key) :
    (t.put other there).put key here = (t.put key here).put other there :=
  ext (putEntry_comm hkey hne)

-- ============================================================ collecting

/-- Assigns to the key of each item, in order, what `step` makes of the value
there and the item. -/
def collect {ι : Type} (step : Option α → ι → α) (t : Table α)
    (items : List (Text × ι)) : Table α :=
  items.foldl (fun acc item => acc.put item.1 (step (acc.get? item.1) item.2)) t

/-- The step that assigns the item itself. -/
def last (_ : Option α) (value : α) : α := value

/-- The step that keeps the value that is there. -/
def first (old : Option α) (value : α) : α := old.getD value

section Collect

variable {ι : Type} {step : Option α → ι → α} {items : List (Text × ι)}

/-- Items are collected one list after the other. -/
theorem collect_append (t : Table α) (items more : List (Text × ι)) :
    t.collect step (items ++ more) = (t.collect step items).collect step more :=
  List.foldl_append

/-- Items of other keys leave a value as it is. -/
theorem get?_collect_of_notMem (h : key ∉ items.map (·.1)) :
    (t.collect step items).get? key = t.get? key := by
  unfold collect
  induction items generalizing t with
  | nil => rfl
  | cons item rest ih =>
      rw [List.map_cons, List.mem_cons, not_or] at h
      rw [List.foldl_cons, ih h.2, get?_put, if_neg h.1]

/-- A key that has a place can be assigned before or after items of other
keys. -/
theorem put_collect (hkey : key ∈ t.keys) (h : key ∉ items.map (·.1)) :
    (t.collect step items).put key value
      = (t.put key value).collect step items := by
  unfold collect
  induction items generalizing t with
  | nil => rfl
  | cons item rest ih =>
      rw [List.map_cons, List.mem_cons, not_or] at h
      have hplace :
          key ∈ (t.put item.1 (step (t.get? item.1) item.2)).keys := by
        rw [keys_put]
        split
        · exact hkey
        · exact List.mem_append_left _ hkey
      rw [List.foldl_cons, List.foldl_cons, ih hplace h.2,
        put_comm hkey (Ne.symm h.1), get?_put, if_neg (Ne.symm h.1)]

/-- Items of different new keys get an entry each. -/
theorem entries_collect_of_fresh (hnodup : (items.map (·.1)).Nodup)
    (hfresh : ∀ item ∈ items, item.1 ∉ t.keys) : (t.collect step items).entries
      = t.entries ++ items.map fun item => (item.1, step none item.2) := by
  induction items generalizing t with
  | nil => exact (List.append_nil t.entries).symm
  | cons item rest ih =>
      obtain ⟨hnew, hnodup⟩ := List.nodup_cons.mp hnodup
      obtain ⟨hfirst, hfresh⟩ := List.forall_mem_cons.mp hfresh
      have hentries :=
        entries_put_of_notMem hfirst (step (t.get? item.1) item.2)
      have hkeys :
          ∀ other ∈ rest, other.1
            ∉ (t.put item.1 (step (t.get? item.1) item.2)).keys := by
        intro other hother hmem
        rw [keys_put, if_neg hfirst, List.mem_append, List.mem_singleton]
          at hmem
        rcases hmem with hmem | heq
        · exact hfresh other hother hmem
        · exact hnew (List.mem_map.mpr ⟨other, hother, heq⟩)
      refine (ih hnodup hkeys).trans ?_
      rw [hentries, get?_eq_none_iff.mpr hfirst, List.append_assoc]
      rfl

/-- Items of keys that have a place change their entries, each in the order of
its own items. -/
theorem entries_collect_of_mem (hkeys : ∀ item ∈ items, item.1 ∈ t.keys) :
    (t.collect step items).entries = t.entries.map fun entry =>
      (entry.1, (items.filter (·.1 == entry.1)).foldl
        (fun v item => step (some v) item.2) entry.2) := by
  induction items generalizing t with
  | nil => exact (List.map_id t.entries).symm
  | cons item rest ih =>
      obtain ⟨hfirst, hkeys⟩ := List.forall_mem_cons.mp hkeys
      have hplaces : (t.put item.1 (step (t.get? item.1) item.2)).keys
          = t.keys := by
        rw [keys_put, if_pos hfirst]
      refine (ih (by rwa [hplaces])).trans ?_
      rw [entries_put_of_mem hfirst, List.map_map]
      refine List.map_congr_left fun entry hentry => ?_
      by_cases hkey : entry.1 = item.1
      · have hvalue : t.get? item.1 = some entry.2 := by
          rw [← hkey]
          exact get?_eq_some_iff.mpr hentry
        rw [Function.comp, if_pos hkey,
          List.filter_cons_of_pos (by simp [hkey]), hvalue]
        rfl
      · have hother : (item.1 == entry.1) = false := by simpa using Ne.symm hkey
        rw [Function.comp, if_neg hkey,
          List.filter_cons_of_neg (by simp [hother])]

end Collect

/-- Of some assignments the last one to a key counts. -/
theorem get?_collect_last (t : Table α) (items : List (Text × α)) (key : Text) :
    (t.collect last items).get? key
      = (items.reverse.lookup key).or (t.get? key) := by
  unfold collect
  induction items generalizing t with
  | nil => rfl
  | cons item rest ih =>
      obtain ⟨k, v⟩ := item
      rw [List.foldl_cons, ih, get?_put, List.reverse_cons, List.lookup_append,
        Option.or_assoc]
      by_cases hk : key = k
      · simp [hk, last]
      · have hb : (key == k) = false := by simpa using hk
        simp [List.lookup_cons, hb, hk]

/-- Of some assignments to new keys only, the first one to a key counts. -/
theorem get?_collect_first (t : Table α) (items : List (Text × α))
    (key : Text) :
    (t.collect first items).get? key = (t.get? key).or (items.lookup key) := by
  unfold collect
  induction items generalizing t with
  | nil => exact (Option.or_none).symm
  | cons item rest ih =>
      obtain ⟨k, v⟩ := item
      rw [List.foldl_cons, ih, get?_put, List.lookup_cons]
      by_cases hk : key = k
      · subst hk
        rw [if_pos rfl, beq_self_eq_true]
        cases t.get? key with
        | none => rfl
        | some old => rfl
      · rw [if_neg hk, beq_eq_false_iff_ne.mpr hk]

/-- Assigning to keys without a value is collecting the first values. -/
theorem foldl_put_new (t : Table α) (items : List (Text × α)) :
    items.foldl (fun acc item => if acc.has item.1 then acc
      else acc.put item.1 item.2) t
      = t.collect first items := by
  unfold collect
  induction items generalizing t with
  | nil => rfl
  | cons item rest ih =>
      rw [List.foldl_cons, List.foldl_cons, ih]
      cases hget : t.get? item.1 with
      | none =>
          rw [if_neg (by simp [has, hget])]
          rfl
      | some old =>
          have hkeep : t.put item.1 (first (some old) item.2) = t :=
            put_eq_self hget
          rw [if_pos (by simp [has, hget]), hkeep]

-- =============================================================== sorting

/-- Sorting rearranges the entries. -/
theorem sorted_perm (t : Table α) : t.sorted.Perm t.entries :=
  Ordered.sortBy_perm _ t.entries

/-- Changing the values does not change the order. -/
theorem sorted_map {β : Type} (f : α → β) (t : Table α) :
    (t.map f).sorted = t.sorted.map fun entry => (entry.1, f entry.2) :=
  Ordered.sortBy_map (fun _ _ => rfl) t.entries

/-- Sorted entries stand in the order of their keys. -/
theorem pairwise_sorted (t : Table α) :
    t.sorted.Pairwise fun a b => ¬ b.1 < a.1 := by
  have hsorted : t.sorted.Pairwise fun a b => Text.le a.1 b.1 = true := by
    refine Ordered.pairwise_sortBy ?_ ?_ t.entries
    · exact fun a b c => Text.le_trans
    · exact fun a b => Text.le_total a.1 b.1
  exact hsorted.imp Text.le_iff.mp

/-- As no key occurs twice, the order is strict. -/
theorem pairwise_lt_sorted (t : Table α) :
    t.sorted.Pairwise fun a b => a.1 < b.1 := by
  have hkeys : (t.sorted.map (·.1)).Perm t.keys := (sorted_perm t).map (·.1)
  have hdistinct : t.sorted.Pairwise fun a b => a.1 ≠ b.1 :=
    List.pairwise_map.mp (hkeys.nodup_iff.mpr t.distinct)
  refine (hdistinct.and (pairwise_sorted t)).imp ?_
  rintro a b ⟨hne, hle⟩
  exact Classical.byContradiction fun hlt =>
    hne (List.le_antisymm (List.not_lt.mp hle) (List.not_lt.mp hlt))

/-- Tables have the same sorted listing exactly if they are the same finite
map. -/
theorem sorted_eq_iff :
    t.sorted = u.sorted ↔ ∀ key, t.get? key = u.get? key := by
  have hmaps : (∀ key, t.get? key = u.get? key)
      ↔ ∀ entry, entry ∈ t.entries ↔ entry ∈ u.entries := by
    constructor
    · intro h entry
      obtain ⟨k, v⟩ := entry
      rw [← get?_eq_some_iff, ← get?_eq_some_iff, h]
    · intro h key
      refine Option.ext fun v => ?_
      rw [get?_eq_some_iff, get?_eq_some_iff, h]
  rw [hmaps]
  constructor
  · intro h entry
    rw [← (sorted_perm t).mem_iff, h, (sorted_perm u).mem_iff]
  · intro h
    have hperm : t.entries.Perm u.entries :=
      (List.perm_ext_iff_of_nodup t.nodup_entries u.nodup_entries).mpr h
    refine List.Perm.eq_of_pairwise ?_ (pairwise_sorted t) (pairwise_sorted u)
      (((sorted_perm t).trans hperm).trans (sorted_perm u).symm)
    intro a b ha hb hab hba
    -- equal keys have equal values, as both entries are found in one table
    have hkey : a.1 = b.1 :=
      List.le_antisymm (List.not_lt.mp hab) (List.not_lt.mp hba)
    have hfound := get?_eq_some_iff.mpr ((sorted_perm t).mem_iff.mp ha)
    have hother :=
      get?_eq_some_iff.mpr ((h b).mpr ((sorted_perm u).mem_iff.mp hb))
    rw [hkey, hother, Option.some.injEq] at hfound
    exact Prod.ext hkey hfound.symm

end Table

end SourceAtlas
