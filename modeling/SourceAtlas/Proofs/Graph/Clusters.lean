/-
The clusters of a graph are a partition of its files: every file is listed
once, in the cluster of its directory, and no cluster is empty. Clusters and
the files in them stand in increasing order, so a diagram that goes through
the clusters goes through the files.

Consumed by the theories of the two diagrams.
-/
import Mathlib.Data.List.Nodup
import SourceAtlas.Proofs.Graph.Adjacency
import SourceAtlas.Proofs.Path.Components

namespace SourceAtlas.DependencyGraph

variable {g : DependencyGraph} {p : Text} {cluster : Text × List Text}

/-- Clusters are the files grouped by directory, in order. -/
theorem clusters_eq_sorted (g : DependencyGraph) :
    g.clusters = (group clusterOf (fun p => p) g.files).sorted :=
  rfl

/-- A cluster lists the files of its name. -/
theorem mem_clusters_iff : cluster ∈ g.clusters
    ↔ cluster.1 ∈ g.files.map clusterOf
      ∧ cluster.2 = g.files.filter fun p => clusterOf p = cluster.1 := by
  rw [clusters_eq_sorted, (Table.sorted_perm _).mem_iff, mem_entries_group,
    membersOf, List.map_id']

theorem pairwise_clusters (g : DependencyGraph) :
    g.clusters.Pairwise fun a b => a.1 < b.1 :=
  Table.pairwise_lt_sorted _

theorem ne_nil_of_mem_clusters (h : cluster ∈ g.clusters) : cluster.2 ≠ [] := by
  rw [clusters_eq_sorted, (Table.sorted_perm _).mem_iff] at h
  exact ne_nil_of_mem_entries_group h

theorem pairwise_of_mem_clusters (h : cluster ∈ g.clusters) :
    cluster.2.Pairwise (· < ·) := by
  rw [(mem_clusters_iff.mp h).2]
  exact (pairwise_files g).filter _

/-- A file stands in the cluster of its directory. -/
theorem clusterOf_of_mem (h : cluster ∈ g.clusters) (hp : p ∈ cluster.2) :
    clusterOf p = cluster.1 := by
  rw [(mem_clusters_iff.mp h).2] at hp
  exact of_decide_eq_true (List.mem_filter.mp hp).2

/-- Every file is listed in its cluster. -/
theorem exists_mem_clusters (hp : p ∈ g.files) :
    ∃ members, (clusterOf p, members) ∈ g.clusters ∧ p ∈ members := by
  refine ⟨g.files.filter fun q => clusterOf q = clusterOf p,
    mem_clusters_iff.mpr ⟨List.mem_map_of_mem hp, rfl⟩, ?_⟩
  exact List.mem_filter.mpr ⟨hp, decide_eq_true rfl⟩

/-- The files as the clusters list them. -/
def clusteredFiles (g : DependencyGraph) : List Text := g.clusters.flatMap (·.2)

/-- The clusters hold the files of the graph. -/
theorem mem_clusteredFiles : p ∈ g.clusteredFiles ↔ p ∈ g.files := by
  unfold clusteredFiles
  rw [List.mem_flatMap]
  constructor
  · rintro ⟨cluster, hcluster, hp⟩
    rw [(mem_clusters_iff.mp hcluster).2] at hp
    exact (List.mem_filter.mp hp).1
  · intro hp
    obtain ⟨members, hcluster, hmem⟩ := exists_mem_clusters hp
    exact ⟨_, hcluster, hmem⟩

/-- No file is listed twice: not in one cluster, and not in two, because their
names differ. -/
theorem nodup_clusteredFiles (g : DependencyGraph) :
    g.clusteredFiles.Nodup := by
  refine List.pairwise_flatMap.mpr ⟨?_, ?_⟩
  · intro cluster hcluster
    exact Ordered.nodup_of_pairwise (pairwise_of_mem_clusters hcluster)
  · refine (pairwise_clusters g).imp_of_mem ?_
    rintro a b ha hb hlt p hp q hq rfl
    rw [← clusterOf_of_mem ha hp, ← clusterOf_of_mem hb hq] at hlt
    exact List.lt_irrefl _ hlt

theorem count_clusteredFiles (hp : p ∈ g.files) :
    g.clusteredFiles.count p = 1 :=
  List.count_eq_one_of_mem (nodup_clusteredFiles g) (mem_clusteredFiles.mpr hp)

/-- The name of a cluster holds what the path holds, slashes and a dot. -/
theorem notMem_clusterOf {c : Char} {p : Text} (hdot : c ≠ '.')
    (hslash : c ≠ '/') (hp : c ∉ p) : c ∉ clusterOf p := by
  intro hc
  unfold clusterOf at hc
  simp only at hc
  split at hc
  case isTrue => exact hdot (List.mem_singleton.mp hc)
  case isFalse =>
    rcases Text.mem_join hc with hc | ⟨part, hpart, hc⟩
    · exact hslash (List.mem_singleton.mp hc)
    · have hmem :=
        (Text.isInfix_of_mem_split (List.mem_of_mem_take hpart)).subset hc
      rcases Path.mem_of_mem_directory hmem with rfl | hmem
      · exact hslash rfl
      · exact hp ((Text.isPrefix_trimEnd _ p).subset hmem)

end SourceAtlas.DependencyGraph
