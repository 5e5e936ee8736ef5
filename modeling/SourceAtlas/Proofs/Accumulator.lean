/-
Accumulators in general: a state that items are added to one at a time, and
a merge of two states. Map-reduce is sound for an accumulator if merging what
two lists of items give is what their concatenation gives. Then the items of
a run may be cut into consecutive chunks, each collected on its own, and the
results merged in any grouping that keeps their order.

Most accumulators here are tables whose values are made one item at a time.
For those the law is about one key at a time (`Table.Joins`), and
`collect_collect` lifts it to the table with the order of its keys.

Consumed by the theory of the five accumulators of a run.
-/
import SourceAtlas.Proofs.Table

namespace SourceAtlas

-- ========================================================== accumulators

/-- A way of collecting items: the state before any, the state after one
more, and the merge of two states. -/
structure Accumulator (ι σ : Type) where
  empty : σ
  add : σ → ι → σ
  merge : σ → σ → σ

/-- Items cut into consecutive chunks, and the grouping in which the states
of the chunks are merged. -/
inductive Grouping (ι : Type) where
  | chunk (items : List ι)
  | both (left right : Grouping ι)

/-- All items, in order. -/
def Grouping.items {ι : Type} : Grouping ι → List ι
  | chunk items => items
  | both left right => left.items ++ right.items

namespace Accumulator

variable {ι σ : Type}

/-- The state after one pass over a list of items. -/
def onePass (a : Accumulator ι σ) (items : List ι) : σ :=
  items.foldl a.add a.empty

/-- The state that chunks give which are collected apart and merged. -/
def reduce (a : Accumulator ι σ) : Grouping ι → σ
  | .chunk items => a.onePass items
  | .both left right => a.merge (a.reduce left) (a.reduce right)

/-- Collecting apart and merging is the same as one pass: for two lists, and
hence for any chunks in any grouping. -/
structure MapReduces (a : Accumulator ι σ) : Prop where
  merge_onePass : ∀ xs ys,
    a.merge (a.onePass xs) (a.onePass ys) = a.onePass (xs ++ ys)
  reduce_eq : ∀ chunks, a.reduce chunks = a.onePass chunks.items

/-- The law for two lists gives it for every grouping. -/
theorem mapReduces_of_merge {a : Accumulator ι σ}
    (h : ∀ xs ys, a.merge (a.onePass xs) (a.onePass ys)
      = a.onePass (xs ++ ys)) : a.MapReduces := by
  refine ⟨h, ?_⟩
  intro chunks
  induction chunks with
  | chunk items => rfl
  | both left right ihl ihr => rw [reduce, ihl, ihr, h, Grouping.items]

/-- Merging the parts into one state after the other is one pass. -/
theorem MapReduces.foldl_merge {a : Accumulator ι σ} (h : a.MapReduces)
    {κ : Type} (sources : List κ) (part : κ → List ι) :
    sources.foldl (fun s source => a.merge s (a.onePass (part source))) a.empty
      = a.onePass (sources.flatMap part) := by
  suffices hfrom :
    ∀ before : List ι, sources.foldl
      (fun s source => a.merge s (a.onePass (part source))) (a.onePass before)
      = a.onePass (before ++ sources.flatMap part) from hfrom []
  induction sources with
  | nil =>
      intro before
      rw [List.foldl_nil, List.flatMap_nil, List.append_nil]
  | cons source rest ih =>
      intro before
      rw [List.foldl_cons, h.merge_onePass, ih, List.flatMap_cons,
        List.append_assoc]

end Accumulator

-- ================================================================ tables

namespace Table

variable {α ι : Type} {t : Table α}

/-- Whatever is said of the values holds of a table without any. -/
theorem forall_values_empty {P : α → Prop} :
    ∀ k v, (empty : Table α).get? k = some v → P v := by
  intro k v hkv
  cases hkv

/-- What holds of every value and of one more holds after assigning it. -/
theorem forall_values_put {P : α → Prop} {key : Text} {value : α}
    (ht : ∀ k v, t.get? k = some v → P v) (hvalue : P value) :
    ∀ k v, (t.put key value).get? k = some v → P v := by
  intro k v hkv
  rw [get?_put] at hkv
  split at hkv
  · rw [Option.some.injEq] at hkv
    rw [← hkv]
    exact hvalue
  · exact ht k v hkv

/-- What holds of every value that a step makes holds of every value of a
table that is collected with it. -/
theorem forall_values_collect {P : α → Prop} {step : Option α → ι → α}
    {items : List (Text × ι)} (ht : ∀ k v, t.get? k = some v → P v)
    (hstep : ∀ item ∈ items, ∀ old, (∀ v, old = some v → P v)
      → P (step old item.2)) :
    ∀ k v, (t.collect step items).get? k = some v → P v := by
  unfold collect
  induction items generalizing t with
  | nil => exact ht
  | cons item rest ih =>
      rw [List.foldl_cons]
      refine ih ?_ fun x hx => hstep x (List.mem_cons_of_mem _ hx)
      exact forall_values_put ht
        (hstep item List.mem_cons_self _ fun v hv => ht item.1 v hv)

/-- Values made one item at a time by `step`, and a `join` of a value onto
another one that comes to the same as the items the value was made of. -/
structure Joins (step : Option α → ι → α) (join : Option α → α → α)
    (Made : α → Prop) : Prop where
  made_step : ∀ old item, (∀ value, old = some value → Made value)
    → Made (step old item)
  join_first : ∀ old item, join old (step none item) = step old item
  join_next : ∀ old value item, Made value →
    join old (step (some value) item) = step (some (join old value)) item

/-- One more item in the entries that are joined is one more item after
them. -/
theorem Joins.collect_putEntry {step : Option α → ι → α}
    {join : Option α → α → α} {Made : α → Prop} (h : Joins step join Made)
    {entries : List (Text × α)} (hnodup : (entries.map (·.1)).Nodup)
    (hmade : ∀ entry ∈ entries, Made entry.2) (t : Table α) (key : Text)
    (item : ι) :
    t.collect join (putEntry key (step (entries.lookup key) item) entries)
      = (t.collect join entries).put key
          (step ((t.collect join entries).get? key) item) := by
  -- along the entries up to the key's own one
  induction entries generalizing t with
  | nil =>
      show t.put key (join (t.get? key) (step none item))
        = t.put key (step (t.get? key) item)
      rw [h.join_first]
  | cons entry rest ih =>
      obtain ⟨k, v⟩ := entry
      obtain ⟨hfresh, hrest⟩ := List.nodup_cons.mp hnodup
      obtain ⟨hv, hothers⟩ := List.forall_mem_cons.mp hmade
      rw [lookup_cons_eq, putEntry]
      by_cases hk : k = key
      · subst hk
        rw [if_pos rfl, if_pos rfl]
        show (t.put k (join (t.get? k) (step (some v) item))).collect join rest
          = ((t.put k (join (t.get? k) v)).collect join rest).put k
            (step (((t.put k (join (t.get? k) v)).collect join rest).get? k)
              item)
        rw [get?_collect_of_notMem hfresh, get?_put, if_pos rfl,
          put_collect (mem_keys_put t k _) hfresh, put_put,
          h.join_next _ _ _ hv]
      · rw [if_neg (Ne.symm hk), if_neg hk]
        exact ih hrest hothers (t.put k (join (t.get? k) v))

/-- Joining a table onto another one is collecting its items there, with
the same order of the keys. -/
theorem Joins.collect_collect {step : Option α → ι → α}
    {join : Option α → α → α} {Made : α → Prop} (h : Joins step join Made)
    (t : Table α) (items : List (Text × ι)) :
    t.collect join (empty.collect step items).entries
      = t.collect step items := by
  suffices hfrom : ∀ u : Table α, (∀ k v, u.get? k = some v → Made v) →
      t.collect join (u.collect step items).entries
        = (t.collect join u.entries).collect step items from
    hfrom empty forall_values_empty
  induction items with
  | nil =>
      intro u _
      rfl
  | cons item rest ih =>
      intro u hmade
      have hvalue :=
        h.made_step (u.get? item.1) item.2 fun v hv => hmade item.1 v hv
      have hentries : ∀ entry ∈ u.entries, Made entry.2 :=
        fun entry hentry => hmade entry.1 entry.2 (get?_eq_some_iff.mpr hentry)
      have hstep :
          t.collect join (u.put item.1 (step (u.get? item.1) item.2)).entries
            = _ :=
        h.collect_putEntry u.distinct hentries t item.1 item.2
      show t.collect join ((u.put item.1 (step (u.get? item.1) item.2)).collect
        step rest).entries = _
      rw [ih _ (forall_values_put hmade hvalue), hstep]
      rfl

end Table

end SourceAtlas
