/-
The adjacency view says the same as the edges: its keys are the sources, each
with its targets, all in increasing order, and written out edge by edge it is
the sorted list of the edges. So the document of a graph, which holds both,
determines the edges and is determined by them, and its text does because
documents can be told from their texts.

Consumed by the theories of the diagrams.
-/
import SourceAtlas.Graph.Render
import SourceAtlas.Proofs.Graph.Edges
import SourceAtlas.Proofs.Graph.Group
import SourceAtlas.Proofs.Index.Document

namespace SourceAtlas.DependencyGraph

variable {g h : DependencyGraph} {p : Text} {entry : Text × List Text}

-- ================================================================= files

/-- The files are the ends of the edges. -/
theorem mem_files_iff :
    p ∈ g.files ↔ ∃ e ∈ g.edges.edges, p = e.source ∨ p = e.target := by
  unfold files
  rw [Ordered.mem_ofList, List.mem_flatMap]
  simp

/-- Files of a graph stand in increasing order. -/
theorem pairwise_files (g : DependencyGraph) : g.files.Pairwise (· < ·) :=
  Ordered.pairwise_ofList _

-- ============================================================= adjacency

/-- The adjacency view groups targets by source. -/
theorem adjacency_eq_group (g : DependencyGraph) :
    g.adjacency = group Edge.source Edge.target g.edges.edges :=
  rfl

/-- The edges are listed by source. -/
theorem pairwise_keys_adjacency (g : DependencyGraph) :
    g.adjacency.keys.Pairwise (· < ·) := by
  rw [adjacency_eq_group]
  apply pairwise_keys_group
  refine g.edges.increasing.imp ?_
  rintro a b (hlt | ⟨heq, -⟩)
  · exact List.lt_asymm hlt
  · rw [heq]
    exact List.lt_irrefl _

/-- The targets of a source are listed in increasing order. -/
theorem pairwise_of_mem_adjacency (hentry : entry ∈ g.adjacency.entries) :
    entry.2.Pairwise (· < ·) := by
  rw [adjacency_eq_group, mem_entries_group] at hentry
  rw [hentry.2]
  apply pairwise_membersOf
  refine g.edges.increasing.imp ?_
  rintro a b (hlt | ⟨-, hlt⟩) hsource
  · exact absurd (hsource ▸ hlt) (List.lt_irrefl _)
  · exact hlt

/-- The edges that the adjacency view lists, source by source. -/
def adjacencyEdges (g : DependencyGraph) : List Edge :=
  g.adjacency.entries.flatMap fun entry =>
    entry.2.map fun target => ⟨entry.1, target⟩

/-- Its edges are those of the graph. -/
theorem mem_adjacencyEdges {e : Edge} :
    e ∈ g.adjacencyEdges ↔ e ∈ g.edges.edges := by
  unfold adjacencyEdges
  rw [adjacency_eq_group, List.mem_flatMap]
  constructor
  · rintro ⟨entry, hentry, he⟩
    obtain ⟨target, htarget, rfl⟩ := List.mem_map.mp he
    obtain ⟨-, hmembers⟩ := mem_entries_group.mp hentry
    rw [hmembers] at htarget
    obtain ⟨⟨source, target⟩, hmem, rfl, rfl⟩ := mem_membersOf.mp htarget
    exact hmem
  · intro he
    obtain ⟨entry, hentry, hsource, htarget⟩ :
        ∃ entry ∈ (group Edge.source Edge.target g.edges.edges).entries,
          entry.1 = e.source ∧ e.target ∈ entry.2 :=
      exists_mem_entries_group he
    refine ⟨entry, hentry, List.mem_map.mpr ⟨e.target, htarget, ?_⟩⟩
    rw [hsource]

/-- Written out edge by edge the view is the list of the edges. -/
theorem adjacencyEdges_eq (g : DependencyGraph) :
    g.adjacencyEdges = g.edges.edges := by
  refine Ordered.eq_of_mem_iff ?_ g.edges.increasing fun e => mem_adjacencyEdges
  refine List.pairwise_flatMap.mpr ⟨?_, ?_⟩
  · intro entry hentry
    rw [List.pairwise_map]
    exact (pairwise_of_mem_adjacency hentry).imp fun hlt => .inr ⟨rfl, hlt⟩
  · -- the targets do not matter where the sources differ
    refine (List.pairwise_map.mp (pairwise_keys_adjacency g)).imp ?_
    intro a b hlt x hx y hy
    obtain ⟨t, -, rfl⟩ := List.mem_map.mp hx
    obtain ⟨u, -, rfl⟩ := List.mem_map.mp hy
    exact .inl hlt

-- ============================================================== document

/-- An edge as a document. -/
def edgeDocument (e : Edge) : Json :=
  .object [("from", .string e.source), ("to", .string e.target)]

/-- An edge can be told from its document. -/
theorem edgeDocument_injective (e f : Edge)
    (hef : edgeDocument e = edgeDocument f) : e = f := by
  obtain ⟨source, target⟩ := e
  obtain ⟨source', target'⟩ := f
  simpa [edgeDocument] using hef

/-- The document of a graph is plain. -/
theorem plain_document (g : DependencyGraph) : g.document.Plain := by
  have hedges : (Json.array (g.edges.edges.map edgeDocument)).Plain := by
    refine .array fun item hitem => ?_
    obtain ⟨e, -, rfl⟩ := List.mem_map.mp hitem
    refine .object ?_
    simp only [List.forall_mem_cons]
    exact ⟨.string _, .string _, fun _ h => absurd h List.not_mem_nil⟩
  refine .object ?_
  simp only [List.forall_mem_cons]
  exact ⟨.integer _, hedges,
    Json.plain_object_map Json.plain_texts g.adjacency.entries,
    fun _ h => absurd h List.not_mem_nil⟩

/-- The document tells the time and the edges, and nothing else. -/
theorem document_eq_document_iff :
    g.document = h.document
      ↔ g.generated = h.generated ∧ g.edges = h.edges := by
  constructor
  · intro hdocument
    have hmembers := Json.object.inj hdocument
    simp only [List.cons.injEq, Prod.mk.injEq, true_and, Json.integer.injEq,
      Json.array.injEq] at hmembers
    obtain ⟨hgenerated, hedges, -⟩ := hmembers
    have hsame := (List.map_inj_right edgeDocument_injective).mp hedges
    exact ⟨hgenerated, EdgeSet.ext_mem fun e => by rw [hsame]⟩
  · rintro ⟨hgenerated, hedges⟩
    unfold document adjacency
    rw [hgenerated, hedges]

/-- Two graphs are written alike exactly if they agree in their time and their
edges. -/
theorem render_json_eq_iff :
    g.render .json = h.render .json
      ↔ g.generated = h.generated ∧ g.edges = h.edges := by
  rw [← document_eq_document_iff]
  constructor
  · exact Json.write_inj g.plain_document h.plain_document
  · exact congrArg Json.write

-- =========================================================== the relation

/-- The adjacency view has its keys in increasing order, and for each of them
a list of targets in increasing order that is not empty; written out it is the
sorted list of the edges. The files are the ends of the edges, in increasing
order. Two graphs have the same JSON text exactly if they were made at the same
time and have the same edges. -/
theorem adjacency_is_the_edge_relation (g h : DependencyGraph) :
    g.adjacency.keys.Pairwise (· < ·)
      ∧ (∀ entry ∈ g.adjacency.entries, entry.2 ≠ [] ∧ entry.2.Pairwise (· < ·))
      ∧ (g.adjacency.entries.flatMap fun entry =>
        entry.2.map fun target => ⟨entry.1, target⟩)
        = g.edges.edges
      ∧ g.files.Pairwise (· < ·)
      ∧ (∀ p, p ∈ g.files ↔ ∃ e ∈ g.edges.edges, p = e.source ∨ p = e.target)
      ∧ (g.render .json = h.render .json
        ↔ g.generated = h.generated ∧ ∀ e, e ∈ g.edges.edges
          ↔ e ∈ h.edges.edges) := by
  refine ⟨pairwise_keys_adjacency g, ?_, adjacencyEdges_eq g, pairwise_files g,
    fun p => mem_files_iff, ?_⟩
  · intro entry hentry
    exact ⟨ne_nil_of_mem_entries_group hentry, pairwise_of_mem_adjacency hentry⟩
  · rw [render_json_eq_iff]
    refine and_congr_right fun _ => ?_
    constructor
    · intro hedges e
      rw [hedges]
    · exact EdgeSet.ext_mem

/-- Edges between paths that begin alike, and to one beyond the first plane. -/
def alikeEdges : List Edge :=
  [⟨"a/b", "a"⟩, ⟨"a-b", "a/b"⟩, ⟨"a", "a/b"⟩, ⟨"a", "a-b"⟩,
    ⟨"a", [Char.ofNat 0x1f600]⟩]

/-- A graph of some edges. -/
def ofEdges (edges : List Edge) : DependencyGraph :=
  ⟨⟨.python, .none, []⟩, 0, .ofList edges⟩

/-- The order in which edges are added does not show, and each of them does. -/
theorem adjacency_is_the_edge_relation_alike :
    (ofEdges alikeEdges).adjacency.keys
      = ["a".toList, "a-b".toList, "a/b".toList]
      ∧ (ofEdges alikeEdges).adjacency.keys.Pairwise (· < ·)
      ∧ (ofEdges alikeEdges).render .json
        = (ofEdges alikeEdges.reverse).render .json
      ∧ (ofEdges alikeEdges).render .json
        ≠ (ofEdges alikeEdges.tail).render .json := by
  obtain ⟨hkeys, -, -, -, -, hrender⟩ :=
    adjacency_is_the_edge_relation (ofEdges alikeEdges)
      (ofEdges alikeEdges.reverse)
  obtain ⟨-, -, -, -, -, hother⟩ :=
    adjacency_is_the_edge_relation (ofEdges alikeEdges)
      (ofEdges alikeEdges.tail)
  refine ⟨by decide, hkeys, ?_, ?_⟩
  · have hedges : (ofEdges alikeEdges).edges
        = (ofEdges alikeEdges.reverse).edges := by decide
    exact hrender.mpr ⟨rfl, fun e => by rw [hedges]⟩
  · intro htext
    have hedge := (hother.mp htext).2 ⟨"a/b", "a"⟩
    revert hedge
    decide

end SourceAtlas.DependencyGraph
