/-
What the accumulators are, however they came about. A state is reachable if it
is made of empty states by adding items and by merging reachable states, which
need not be chunks of one list and, for concepts, need not have one limit. What
the three steps preserve holds of it (`Reachable.holds`).

- A map of concepts lists each file of a concept once and as many as its own
  limit allows, whatever the limit of a map that was merged into it.
- A map of exports has no empty entry, and each entry is a set without the
  empty name, kept in order.
- A set of edges is kept in order and has no edge from a file to itself.

The last two are known from what they hold, and merging unites what two states
hold (`Unites`), so neither the order of merging nor a second time matters.
-/
import SourceAtlas.Proofs.MapReduce

namespace SourceAtlas

-- ============================================================= reachable

namespace Accumulator

variable {κ ι σ α : Type} {a : κ → Accumulator ι σ} {s t : σ}

/-- The states that are made by the steps of some accumulators. -/
inductive Reachable (a : κ → Accumulator ι σ) : σ → Prop where
  | empty (k : κ) : Reachable a (a k).empty
  | add (k : κ) {s : σ} (item : ι) (hs : Reachable a s) :
      Reachable a ((a k).add s item)
  | merge (k : κ) {s t : σ} (hs : Reachable a s) (ht : Reachable a t) :
      Reachable a ((a k).merge s t)

/-- What holds of the empty state and is kept by each step. -/
structure Preserves (a : Accumulator ι σ) (P : σ → Prop) : Prop where
  empty : P a.empty
  add : ∀ s item, P s → P (a.add s item)
  merge : ∀ s t, P s → P t → P (a.merge s t)

/-- What all accumulators preserve holds of every reachable state. -/
theorem Reachable.holds {P : σ → Prop} (h : ∀ k, (a k).Preserves P)
    (hs : Reachable a s) : P s := by
  induction hs with
  | empty k => exact (h k).empty
  | add k item _ ih => exact (h k).add _ item ih
  | merge k _ _ ihs iht => exact (h k).merge _ _ ihs iht

/-- Two states are merged to the same state in either order, and merging one of
them once more changes nothing. -/
structure MergesAlike (merge : σ → σ → σ) (Same : σ → σ → Prop) (s t : σ) :
    Prop where
  either_order : Same (merge s t) (merge t s)
  second_twice : Same (merge (merge s t) t) (merge s t)
  first_twice : Same (merge (merge s t) s) (merge s t)

/-- Merging unites what two states hold, and states that hold the same are the
same. -/
structure Unites (merge : σ → σ → σ) (P : σ → Prop) (Holds : σ → α → Prop)
    (Same : σ → σ → Prop) : Prop where
  normal : ∀ {s t}, P s → P t → P (merge s t)
  holds_merge : ∀ {s t}, P s → P t
    → ∀ x, Holds (merge s t) x ↔ Holds t x ∨ Holds s x
  same : ∀ {s t}, P s → P t → (∀ x, Holds s x ↔ Holds t x) → Same s t

/-- Where merging unites what the states hold, two of them merge alike. -/
theorem Unites.mergesAlike {merge : σ → σ → σ} {P : σ → Prop}
    {Holds : σ → α → Prop} {Same : σ → σ → Prop} (h : Unites merge P Holds Same)
    (hs : P s) (ht : P t) : MergesAlike merge Same s t := by
  have hst := h.normal hs ht
  refine ⟨h.same hst (h.normal ht hs) fun x => ?_,
    h.same (h.normal hst ht) hst fun x => ?_,
      h.same (h.normal hst hs) hst fun x => ?_⟩
  · rw [h.holds_merge hs ht, h.holds_merge ht hs]
    exact or_comm
  · rw [h.holds_merge hst ht, h.holds_merge hs ht]
    exact or_self_left
  · rw [h.holds_merge hst hs, h.holds_merge hs ht]
    exact ⟨fun hx => hx.elim Or.inr id, Or.inr⟩

end Accumulator

open Accumulator

-- ============================================================== concepts

namespace ConceptMap

variable {m : ConceptMap}

/-- Each concept has one list of files, without duplicates and no longer than
the limit of the map. -/
structure Normal (m : ConceptMap) : Prop where
  distinct : m.files.keys.Nodup
  nodup : ∀ concept files, m.files.get? concept = some files → files.Nodup
  length_le : ∀ concept files, m.files.get? concept = some files →
    (files.length : Int) ≤ max m.limit 0

/-- A list within the limit is one that the cap leaves as it is. -/
theorem normal_iff : m.Normal ↔
    ∀ concept files, m.files.get? concept = some files
      → Capped m.limit files := by
  have hlength (files : List Text) : (files.length : Int) ≤ max m.limit 0
      ↔ files.length ≤ m.limit.toNat := by omega
  constructor
  · intro h
    obtain ⟨-, hnodup, hshort⟩ := h
    exact fun concept files hget =>
      ⟨hnodup concept files hget,
        (hlength files).mp (hshort concept files hget)⟩
  · intro h
    exact ⟨m.files.distinct, fun concept files hget => (h concept files hget).1,
      fun concept files hget => (hlength files).mpr (h concept files hget).2⟩

theorem Normal.add (h : m.Normal) (concept file : Text) :
    (m.add concept file).Normal := by
  have hcapped := normal_iff.mp h
  refine normal_iff.mpr (Table.forall_values_put hcapped ?_)
  refine capped_addFile ?_
  cases hget : m.files.get? concept with
  | none => exact capped_nil
  | some files => exact hcapped concept files hget

/-- Merging is adding, file by file: what adding keeps merging keeps, whatever
the other map. -/
theorem merge_keeps {P : ConceptMap → Prop}
    (hadd : ∀ m concept file, P m → P (m.add concept file)) (h : P m)
    (other : ConceptMap) : P (m.merge other) :=
  List.foldlRecOn (motive := P) other.files.entries _ h fun _ hacc entry _ =>
    List.foldlRecOn (motive := P) entry.2 _ hacc fun acc hacc file _ =>
      hadd acc entry.1 file hacc

theorem Normal.merge (h : m.Normal) (other : ConceptMap) :
    (m.merge other).Normal :=
  merge_keeps (fun _ concept file h => h.add concept file) h other

theorem limit_merge (m other : ConceptMap) : (m.merge other).limit = m.limit :=
  merge_keeps (P := fun acc => acc.limit = m.limit) (fun _ _ _ h => h) rfl other

theorem preserves_normal (limit : Int) :
    (accumulator limit).Preserves Normal where
  empty := normal_iff.mpr Table.forall_values_empty
  add _ item h := h.add item.1 item.2
  merge _ other h _ := h.merge other

end ConceptMap

-- =============================================================== exports

namespace ExportMap

variable {m n : ExportMap} {file symbol : Text}

/-- Each file has one set of symbols, which is not empty and has no empty
symbol. -/
structure Normal (m : ExportMap) : Prop where
  distinct : m.symbols.keys.Nodup
  ne_nil : ∀ file symbols, m.symbols.get? file = some symbols → symbols ≠ []
  increasing : ∀ file symbols, m.symbols.get? file = some symbols
    → symbols.Pairwise (· < ·)
  nil_notMem : ∀ file symbols, m.symbols.get? file = some symbols → [] ∉ symbols

/-- A file and a symbol that it exports. -/
def Exports (m : ExportMap) (pair : Text × Text) : Prop :=
  pair.2 ∈ (m.symbols.get? pair.1).getD []

/-- Equal as finite maps: the order of the files does not count. -/
def Same (m n : ExportMap) : Prop :=
  ∀ file, m.symbols.get? file = n.symbols.get? file

/-- Adding exports the symbols that are not empty. -/
theorem exports_add {symbols : List Text} {pair : Text × Text} :
    (m.add file symbols).Exports pair ↔
      (pair.1 = file ∧ pair.2 ∈ symbols ∧ pair.2 ≠ []) ∨ m.Exports pair := by
  obtain ⟨t⟩ := m
  unfold Exports
  by_cases hnil : step (t.get? file) symbols = []
  · -- the set stays empty: there was no symbol to add
    rw [add_of_step_eq_nil hnil]
    refine ⟨Or.inr, fun h => h.resolve_left fun ⟨_, hnew⟩ => ?_⟩
    have hmem : pair.2 ∈ step (t.get? file) symbols :=
      mem_step.mpr (Or.inl hnew)
    rw [hnil] at hmem
    cases hmem
  · rw [add_of_step_ne_nil hnil, Table.get?_put]
    split
    case isTrue hfile =>
      rw [Option.getD_some, mem_step, hfile]
      exact or_congr_left (and_iff_right rfl).symm
    case isFalse hfile =>
      exact (or_iff_right fun h => hfile h.1).symm

theorem Normal.add (h : m.Normal) (file : Text) (symbols : List Text) :
    (m.add file symbols).Normal := by
  obtain ⟨t⟩ := m
  by_cases hnil : step (t.get? file) symbols = []
  · rwa [add_of_step_eq_nil hnil]
  · rw [add_of_step_ne_nil hnil]
    refine ⟨(t.put file _).distinct, Table.forall_values_put h.ne_nil hnil,
      Table.forall_values_put h.increasing (pairwise_step _ _),
      Table.forall_values_put h.nil_notMem fun hmem => ?_⟩
    rcases mem_step.mp hmem with hnew | hold
    · exact hnew.2 rfl
    · cases hget : t.get? file with
      | none =>
          rw [hget] at hold
          cases hold
      | some old =>
          rw [hget] at hold
          exact h.nil_notMem file old hget hold

theorem Normal.merge (h : m.Normal) (other : ExportMap) :
    (m.merge other).Normal :=
  List.foldlRecOn (motive := Normal) other.symbols.entries _ h
    fun _ hacc entry _ =>
    hacc.add entry.1 entry.2

theorem preserves_normal : accumulator.Preserves Normal where
  empty := ⟨List.nodup_nil, Table.forall_values_empty,
    Table.forall_values_empty, Table.forall_values_empty⟩
  add _ item h := h.add item.1 item.2
  merge _ other h _ := h.merge other

/-- What a map exports stands in one of its entries. -/
theorem exports_iff (h : m.Normal) {pair : Text × Text} :
    m.Exports pair ↔ ∃ entry ∈ m.symbols.entries,
      pair.1 = entry.1 ∧ pair.2 ∈ entry.2 ∧ pair.2 ≠ [] := by
  unfold Exports
  constructor
  · intro hmem
    cases hget : m.symbols.get? pair.1 with
    | none =>
        rw [hget] at hmem
        cases hmem
    | some symbols =>
        rw [hget] at hmem
        refine ⟨(pair.1, symbols), Table.get?_eq_some_iff.mp hget,
          rfl, hmem, ?_⟩
        intro hnil
        exact h.nil_notMem pair.1 symbols hget (hnil ▸ hmem)
  · intro hentries
    obtain ⟨entry, hentry, hfile, hmem, -⟩ := hentries
    rw [hfile, Table.get?_eq_some_iff.mpr hentry]
    exact hmem

/-- Merging exports what either map does. -/
theorem exports_merge (hn : n.Normal) {pair : Text × Text} :
    (m.merge n).Exports pair ↔ n.Exports pair ∨ m.Exports pair := by
  rw [exports_iff hn, merge]
  induction n.symbols.entries generalizing m with
  | nil => simp
  | cons entry rest ih =>
      rw [List.foldl_cons, ih, exports_add, ← or_assoc]
      refine or_congr_left ?_
      simp only [List.mem_cons, exists_eq_or_imp]
      exact or_comm

/-- What a map exports determines it. -/
theorem Normal.same (hm : m.Normal) (hn : n.Normal)
    (h : ∀ pair, m.Exports pair ↔ n.Exports pair) : m.Same n := by
  intro file
  have hset {m : ExportMap} (hm : m.Normal) :
      ((m.symbols.get? file).getD []).Pairwise (· < ·) := by
    cases hget : m.symbols.get? file with
    | none => exact List.Pairwise.nil
    | some symbols => exact hm.increasing file symbols hget
  have hsets : (m.symbols.get? file).getD [] = (n.symbols.get? file).getD [] :=
    Ordered.eq_of_mem_iff (hset hm) (hset hn) fun symbol => h (file, symbol)
  -- an entry is not empty, so a set that is empty has no entry
  cases hleft : m.symbols.get? file with
  | none =>
      cases hright : n.symbols.get? file with
      | none => rfl
      | some symbols =>
          rw [hleft, hright] at hsets
          exact absurd hsets.symm (hn.ne_nil file symbols hright)
  | some symbols =>
      rw [hleft, Option.getD_some] at hsets
      cases hright : n.symbols.get? file with
      | none =>
          rw [hright] at hsets
          exact absurd hsets (hm.ne_nil file symbols hleft)
      | some others =>
          rw [hright] at hsets
          exact congrArg some hsets

/-- Merging unites the exported symbols of every file. -/
theorem unites : Unites merge Normal Exports Same where
  normal hm _ := hm.merge _
  holds_merge _ hn _ := exports_merge hn
  same := Normal.same

end ExportMap

-- ================================================================= edges

namespace EdgeSet

variable {s t : EdgeSet}

/-- Edges in increasing order, none of them from a file to itself. -/
structure Normal (s : EdgeSet) : Prop where
  increasing : s.edges.Pairwise (· < ·)
  no_loop : ∀ e ∈ s.edges, e.source ≠ e.target

/-- Adding an edge keeps a set normal. -/
theorem Normal.add (h : s.Normal) (e : Edge) : (s.add e).Normal := by
  refine ⟨(s.add e).increasing, fun x hx => ?_⟩
  rcases mem_add.mp hx with ⟨rfl, hne⟩ | hx
  · exact hne
  · exact h.no_loop x hx

theorem Normal.merge (hs : s.Normal) (ht : t.Normal) : (s.merge t).Normal := by
  refine ⟨(s.merge t).increasing, fun x hx => ?_⟩
  rcases mem_merge.mp hx with hx | hx
  · exact ht.no_loop x hx
  · exact hs.no_loop x hx

theorem preserves_normal : accumulator.Preserves Normal where
  empty := ⟨EdgeSet.empty.increasing, fun _ hx => absurd hx List.not_mem_nil⟩
  add _ e h := h.add e
  merge _ _ hs ht := hs.merge ht

theorem unites : Unites merge Normal (fun s e => e ∈ s.edges) Eq where
  normal := Normal.merge
  holds_merge _ _ _ := mem_merge
  same _ _ := ext_mem

end EdgeSet

-- =========================================================== the theorem

/-- In every reachable state, a map of concepts is within its own limit, which
merging does not change, maps of exports and sets of edges are in their normal
form, and merging two of these gives the same in either order and a second
time. -/
theorem reachable_accumulators_are_normal :
    (∀ m, Reachable ConceptMap.accumulator m →
        m.Normal ∧ ∀ other, (m.merge other).limit = m.limit)
      ∧ (∀ m, Reachable (fun _ : Unit => ExportMap.accumulator) m →
          m.Normal ∧ ∀ n, Reachable (fun _ : Unit => ExportMap.accumulator) n →
            MergesAlike ExportMap.merge ExportMap.Same m n)
      ∧ ∀ s, Reachable (fun _ : Unit => EdgeSet.accumulator) s →
          s.Normal ∧ ∀ t, Reachable (fun _ : Unit => EdgeSet.accumulator) t →
            MergesAlike EdgeSet.merge Eq s t := by
  refine ⟨fun m hm => ?_, fun m hm => ?_, fun s hs => ?_⟩
  · exact ⟨hm.holds ConceptMap.preserves_normal, ConceptMap.limit_merge m⟩
  · have hnormal := hm.holds fun _ => ExportMap.preserves_normal
    exact ⟨hnormal, fun n hn =>
      ExportMap.unites.mergesAlike hnormal
        (hn.holds fun _ => ExportMap.preserves_normal)⟩
  · have hnormal := hs.holds fun _ => EdgeSet.preserves_normal
    exact ⟨hnormal, fun t ht =>
      EdgeSet.unites.mergesAlike hnormal
        (ht.holds fun _ => EdgeSet.preserves_normal)⟩

/-- A map of at most one file a concept that merges one of at most three files,
exports with empty names that leave no trace, and edges one of which is a
loop. -/
theorem reachable_accumulators_are_normal_merged :
    (∃ m : ConceptMap,
        m = ((ConceptMap.empty 1).add "api".toList "a.py".toList).merge
          (((ConceptMap.empty 3).add "api".toList "b.py".toList).add
            "db".toList "c.py".toList)
        ∧ Reachable ConceptMap.accumulator m ∧ m.Normal ∧ m.limit = 1)
      ∧ (∃ m n : ExportMap,
          m = (ExportMap.empty.add "a.ts".toList
            ["b".toList, [], "a".toList]).add "c.ts".toList [[]]
          ∧ n = (ExportMap.empty.add "b.ts".toList ["x".toList]).add
            "a.ts".toList ["c".toList]
          ∧ m.Normal ∧ ExportMap.Same (m.merge n) (n.merge m)
          ∧ m.merge n ≠ n.merge m)
      ∧ ∃ s t : EdgeSet,
          s = EdgeSet.empty.add ⟨"b.go".toList, "a.go".toList⟩
          ∧ t = (EdgeSet.empty.add ⟨"a.go".toList, "b.go".toList⟩).add
            ⟨"a.go".toList, "a.go".toList⟩
          ∧ t.Normal ∧ s.merge t = t.merge s := by
  obtain ⟨hconcepts, hexports, hedges⟩ := reachable_accumulators_are_normal
  refine ⟨?_, ?_, ?_⟩
  · have hreach : Reachable ConceptMap.accumulator _ :=
      .merge 1 (.add 1 ("api".toList, "a.py".toList) (.empty 1))
        (.add 3 ("db".toList, "c.py".toList)
          (.add 3 ("api".toList, "b.py".toList) (.empty 3)))
    exact ⟨_, rfl, hreach, (hconcepts _ hreach).1, by decide⟩
  · have hm : Reachable (fun _ : Unit => ExportMap.accumulator) _ :=
      .add () ("c.ts".toList, [[]])
        (.add () ("a.ts".toList, ["b".toList, [], "a".toList]) (.empty ()))
    have hn : Reachable (fun _ : Unit => ExportMap.accumulator) _ :=
      .add () ("a.ts".toList, ["c".toList])
        (.add () ("b.ts".toList, ["x".toList]) (.empty ()))
    obtain ⟨hnormal, hmerge⟩ := hexports _ hm
    exact ⟨_, _, rfl, rfl, hnormal, (hmerge _ hn).either_order, by decide⟩
  · have hs : Reachable (fun _ : Unit => EdgeSet.accumulator) _ :=
      .add () ⟨"b.go".toList, "a.go".toList⟩ (.empty ())
    have ht : Reachable (fun _ : Unit => EdgeSet.accumulator) _ :=
      .add () ⟨"a.go".toList, "a.go".toList⟩
        (.add () ⟨"a.go".toList, "b.go".toList⟩ (.empty ()))
    exact ⟨_, _, rfl, rfl, (hedges _ ht).1, ((hedges _ hs).2 _ ht).either_order⟩

end SourceAtlas
