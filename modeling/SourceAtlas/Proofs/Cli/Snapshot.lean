/-
What becomes of the snapshot. Every command that makes artifacts writes the
snapshot after them (`HasWritten`, `perform_eq`). By then the root is still a
directory and the store is there, so two things can go wrong: the output
directory has no name to leave out of the snapshot, or a directory stands where
the snapshot belongs. In the first case the command dies with its artifacts
written and no snapshot beside them.

- `perform_eq`: all commands end in the same way.
- `snapshot_needs_an_output_name`: which commands write the snapshot.
-/
import SourceAtlas.Proofs.Artifact.Fresh
import SourceAtlas.Proofs.Artifact.Snapshot
import SourceAtlas.Proofs.Cli.Effect

namespace SourceAtlas.Cli

open Node

variable {render : Renderer} {w : World} {r : Request} {settings : Settings}
  {s : Store} {tree left : Node} {artifacts : List Artifact}

-- =============================================================== the store

theorem keepsDirectories_writeAll (s : Store) (artifacts : List Artifact)
    (tree : Node) : KeepsDirectories tree (writeAll s artifacts tree).2 := by
  induction artifacts generalizing tree with
  | nil => exact fun q hq => hq
  | cons a rest ih =>
      have hfirst : KeepsDirectories tree (s.write tree a.name a.content).2 :=
        Store.keepsDirectories_writeWith none s tree a.name a.content
      rw [writeAll]
      split
      case h_1 place after hwrite =>
        rw [hwrite] at hfirst
        exact fun q hq => ih after q (hfirst q hq)
      case h_2 fault after hwrite =>
        rw [hwrite] at hfirst
        exact hfirst

/-- Once something is written the store is there. -/
theorem exists_place_of_writeAll (hne : artifacts ≠ [])
    (hnames : ∀ name ∈ artifacts.map (·.name), Path.IsName name)
    (h : writeAll s artifacts tree = (.ok (), left)) :
    ∃ place, left.locate s.directory = .ok place
      ∧ left.kindAt place = some .directory := by
  cases artifacts with
  | nil => exact absurd rfl hne
  | cons a rest =>
      rw [writeAll] at h
      split at h
      case h_2 => cases h
      case h_1 place after hwrite =>
        obtain ⟨above, -, habove, hdir, -, -⟩ :=
          Store.exists_above_of_writeWith_eq_ok
            (hnames a.name List.mem_cons_self) hwrite
        have hkept := keepsDirectories_writeAll s rest after
        rw [h] at hkept
        exact ⟨above, locate_of_keepsDirectories hkept habove hdir,
          hkept above hdir⟩

-- ================================================================ commands

/-- Whether a request is for an index and for a graph, and in which form. -/
inductive Asks (r : Request) : Bool → Bool → GraphFormat → Prop where
  | index (h : r.command = .index) : Asks r true false .mermaid
  | deps {format : GraphFormat} (h : r.command = .deps)
      (hformat : GraphFormat.ofText? r.format = some format) :
      Asks r false true format
  | all {format : GraphFormat} (h : r.command = .all)
      (hformat : GraphFormat.ofText? r.format = some format) :
      Asks r true true format

/-- A command that asks for something builds it. -/
theorem perform_of_asks {wantIndex wantGraph : Bool} {format : GraphFormat}
    (h : Asks r wantIndex wantGraph format) :
    perform w r = build w r wantIndex wantGraph format := by
  unfold perform
  cases h with
  | index hcommand => rw [hcommand]
  | deps hcommand hformat =>
      rw [hcommand, hformat]
      rfl
  | all hcommand hformat =>
      rw [hcommand, hformat]
      rfl

/-- There is an artifact to write if something was asked for. -/
theorem artifactsOf_ne_nil {wantIndex wantGraph : Bool} {format : GraphFormat}
    {result : RunResult} (h : Asks r wantIndex wantGraph format)
    (hindex : result.index.isSome = wantIndex)
    (hgraph : result.graph.isSome = wantGraph) :
    artifactsOf render r settings format result ≠ [] := by
  intro hnil
  have hnames : (artifactsOf render r settings format result).map (·.name)
      = _ :=
    names_artifactsOf r settings format result
  rw [hnil, hindex, hgraph] at hnames
  cases h <;> simp at hnames

/-- A request for artifacts has come so far that they are written, all but the
snapshot, and `left` is the tree by then. -/
def HasWritten (w : World) (r : Request) (settings : Settings) (left : Node) :
    Prop :=
  ∃ wantIndex wantGraph format result, Asks r wantIndex wantGraph format
    ∧ runFor w r wantIndex wantGraph = .ok (settings, result)
    ∧ writeAll (storeFor w r settings)
        (artifactsOf w.packages.render r settings format result) w.tree
      = (.ok (), left)

namespace HasWritten

/-- The root is a directory, and the store is there. -/
theorem directories (h : HasWritten w r settings left) :
    (∃ entries, left.stat (w.names r.root) = .ok (.directory entries))
      ∧ ∃ place, left.locate (storeFor w r settings).directory = .ok place
        ∧ left.kindAt place = some .directory := by
  obtain ⟨wantIndex, wantGraph, format, result, hasks, hrun, hwritten⟩ := h
  obtain ⟨⟨root, project, hproject, -⟩, hindex, hgraph⟩ := runFor_eq_ok hrun
  obtain ⟨hroot, hfound, hdir⟩ := project?_eq_ok_iff.mp hproject
  have hrootdir : w.tree.kindAt root = some .directory := by
    unfold kindAt
    rw [hfound, Option.map_some, kind_eq_directory_iff.mpr hdir]
  have hkept := keepsDirectories_writeAll (storeFor w r settings)
    (artifactsOf w.packages.render r settings format result) w.tree
  rw [hwritten] at hkept
  obtain ⟨entries, hentries⟩ := exists_entries_of_kindAt (hkept root hrootdir)
  exact ⟨⟨entries, stat_of_find?
    (locate_of_keepsDirectories hkept hroot hrootdir) hentries⟩,
    exists_place_of_writeAll (artifactsOf_ne_nil hasks hindex hgraph)
    isName_artifactsOf hwritten⟩

/-- What is left to do is to write the snapshot. -/
theorem perform_eq (h : HasWritten w r settings left) : ∃ lines, perform w r
    = match writeSnapshot w (storeFor w r settings) r.root
      settings.outputDir left with
      | (.error f, after) => failed w.packages.render after f
      | (.ok _, after) => shown w.packages.render after lines := by
  obtain ⟨wantIndex, wantGraph, format, result, hasks, hrun, hwritten⟩ := h
  rw [perform_of_asks hasks]
  unfold build finish
  rw [hrun]
  unfold storeFor artifactsOf at hwritten
  simp only [hwritten]
  exact ⟨_, rfl⟩

end HasWritten

-- ============================================================ the snapshot

/-- Which commands write the snapshot. A snapshot can be made of every root
that is a directory, unless the output directory is a relative path that is not
empty and names nothing. A command that has written its artifacts then dies
and leaves them without a snapshot. It fails as well, with all files as they
are by then, where a directory stands in the place of the snapshot. In all
other cases it writes the snapshot and changes nothing else. -/
theorem snapshot_needs_an_output_name (w : World) :
    (∀ entries outputDir generated,
      Snapshot.build (.ok (.directory entries)) outputDir generated
        = if Snapshot.Nameless outputDir then .error .noOutputName
          else .ok ⟨generated,
            Snapshot.hashOfStructure entries (Snapshot.topLevel outputDir),
            Snapshot.hashesOfConfig (.directory entries)⟩)
    ∧ ∀ args r settings left, w.packages.call args = .run r →
      HasWritten w r settings left →
      if Snapshot.Nameless settings.outputDir then
        run w args = ⟨1, [], [], some (.snapshot .noOutputName), left⟩
      else ∃ place snapshot,
        left.locate (storeFor w r settings).directory = .ok place
          ∧ Snapshot.build (left.stat (w.names r.root)) settings.outputDir
              w.clock
            = .ok snapshot
          ∧ if left.directoryAt (place ++ [snapshotFile]) then
              ∃ fault after,
                run w args = ⟨1, [], [], some (.fault fault), after⟩
                  ∧ ∀ path, after.leafAt? path = left.leafAt? path
            else
              (run w args).tree.readBytes
                  ((storeFor w r settings).artifactPath snapshotFile)
                = .ok (Utf8.encode snapshot.document.write)
              ∧ ∀ path, path ≠ place ++ [snapshotFile] →
                (run w args).tree.kindAt path = left.kindAt path := by
  refine ⟨Snapshot.build_directory, ?_⟩
  intro args r settings left hcall hwritten
  obtain ⟨⟨entries, hroot⟩, place, hplace, hdir⟩ := hwritten.directories
  obtain ⟨lines, hperform⟩ := hwritten.perform_eq
  have hbuild := Snapshot.build_directory entries settings.outputDir w.clock
  rw [run_of_call hcall, hperform, hroot]
  unfold writeSnapshot
  rw [hroot, hbuild]
  split
  case isTrue => exact failed_eq left rfl
  case isFalse =>
    -- The root is still there, so there is a snapshot; only a directory in the
    -- place of its file can keep it from being written.
    generalize hsnapshot : Snapshot.mk _ _ _ = snapshot
    refine ⟨place, snapshot, hplace, rfl, ?_⟩
    simp only [writeAll]
    split
    case isTrue hbusy =>
      obtain ⟨fault, after, hwrite, hleaf⟩ :=
        Store.exists_write_eq_error hplace hdir isName_snapshotFile
          (directoryAt_iff_kindAt.mp hbusy) snapshot.document.write
      rw [hwrite]
      exact ⟨fault, after, failed_eq after rfl, hleaf⟩
    case isFalse hfree =>
      obtain ⟨after, hwrite, hplaced⟩ :=
        Store.exists_write_eq_ok hplace hdir isName_snapshotFile (by decide)
          (mt directoryAt_iff_kindAt.mpr hfree) snapshot.document.write
      rw [hwrite, Store.artifactPath_of_isName _ isName_snapshotFile]
      simp only [tree_shown]
      refine ⟨hplaced.readBytes_eq, ?_⟩
      intro path hpath
      rw [hplaced.kindAt_eq, if_neg hpath]

-- ================================================================ a project

/-- What is written of a graph alone. -/
theorem exists_hasWritten {settings : Settings} {place : List Name}
    {project : Node} {plan : Run.Plan} {format : GraphFormat}
    (hcommand : r.command = .deps)
    (hformat : GraphFormat.ofText? r.format = some format)
    (hproject : w.project? r.root = .ok (place, project))
    (hsettings : settingsFor w.packages.toHost r project = .ok settings)
    (hplan : Run.plan w.packages.toHost project (some settings) = .ok plan)
    (hsources : plan.conceptFiles ≠ []) :
    ∃ text, ∀ there left,
      (storeFor w r settings).write w.tree format.fileName text
        = (.ok there, left) →
      HasWritten w r settings left := by
  obtain ⟨result, hrun, hindex, hgraph⟩ :=
    exists_runFor_eq_ok hproject hsettings hplan hsources false true
  obtain ⟨graph, hgraph⟩ := Option.isSome_iff_exists.mp hgraph
  have hnone : result.index = none := by simpa using hindex
  refine ⟨graph.render format, fun there left hwrite =>
    ⟨false, true, format, result, .deps hcommand hformat, hrun, ?_⟩⟩
  simp only [artifactsOf, indexParts, graphParts, hnone, hgraph,
    List.nil_append, writeAll, hwrite]

/-- The graph of the bare project, wanted in the project itself. -/
def hereRequest : Request :=
  { command := .deps, outputDir := some ".".toList, format := "dot" }

theorem hasWritten_here :
    ∃ bytes, HasWritten bareWorld hereRequest { outputDir := "." }
    (.directory [("p".toList, .directory [("setup.py".toList, .file [] true),
      ("deps.dot".toList, .file bytes true)])]) := by
  have hplan :
      Run.plan bareWorld.packages.toHost bareProject (some { outputDir := "." })
        = .ok (Run.freshPlan bareProject { outputDir := "." }
          ⟨.python, .none, []⟩ ⟨[.decorator], some .python, some .python⟩) :=
    Run.plan_some_eq_ok_iff.mpr ⟨_, _, rfl, rfl, rfl⟩
  have hformat : GraphFormat.ofText? hereRequest.format = some .dot := rfl
  have hproject : bareWorld.project? hereRequest.root
      = .ok (["p".toList], bareProject) := rfl
  obtain ⟨text, hwritten⟩ :=
    exists_hasWritten rfl hformat hproject rfl hplan (by decide)
  exact ⟨_, hwritten _ _ rfl⟩

theorem hasWritten_bare :
    ∃ bytes, HasWritten bareWorld bareRequest { outputDir := "out" }
    (.directory [("p".toList, .directory [("setup.py".toList, .file [] true),
      ("out".toList, .directory
        [("deps.dot".toList, .file bytes true)])])]) := by
  have hplan :
      Run.plan bareWorld.packages.toHost bareProject
        (some { outputDir := "out" }) = .ok barePlan :=
    Run.plan_some_eq_ok_iff.mpr ⟨_, _, rfl, rfl, rfl⟩
  have hformat : GraphFormat.ofText? bareRequest.format = some .dot := rfl
  have hproject : bareWorld.project? bareRequest.root
      = .ok (["p".toList], bareProject) := rfl
  obtain ⟨text, hwritten⟩ :=
    exists_hasWritten rfl hformat hproject rfl hplan (by decide)
  exact ⟨_, hwritten _ _ rfl⟩

/-- A graph in a new directory gets a snapshot beside it, and one in the
project itself does not. -/
theorem snapshot_needs_an_output_name_bare :
    (∃ bytes, (run bareWorld
      ["deps".toList, "-fdot".toList, "-oout".toList]).tree.readBytes
      ["p".toList, "out".toList, "snapshot.json".toList] = .ok bytes)
    ∧ ∃ bytes, run bareWorld ["deps".toList, "-fdot".toList, "-o.".toList]
      = ⟨1, [], [], some (.snapshot .noOutputName),
        .directory [("p".toList, .directory [("setup.py".toList, .file [] true),
          ("deps.dot".toList, .file bytes true)])]⟩ := by
  constructor
  · obtain ⟨bytes, hwritten⟩ := hasWritten_bare
    have hrun :=
      (snapshot_needs_an_output_name bareWorld).2
        ["deps".toList, "-fdot".toList, "-oout".toList] bareRequest _ _
        rfl hwritten
    rw [if_neg (by decide)] at hrun
    obtain ⟨place, snapshot, hplace, -, hrun⟩ := hrun
    obtain rfl : ["p".toList, "out".toList] = place := Except.ok.inj hplace
    exact ⟨_, hrun.1⟩
  · obtain ⟨bytes, hwritten⟩ := hasWritten_here
    have hrun := (snapshot_needs_an_output_name bareWorld).2
      ["deps".toList, "-fdot".toList, "-o.".toList] hereRequest _ _ rfl hwritten
    rw [if_pos (by decide)] at hrun
    exact ⟨bytes, hrun⟩

/-- A directory without snapshot, and a command that has left the graph there
and no snapshot. -/
theorem snapshot_lacks_for_a_dot :
    (¬ ∀ entries outputDir generated, ∃ snapshot,
      Snapshot.build (.ok (.directory entries)) outputDir generated
        = .ok snapshot)
    ∧ ∃ bytes, (run bareWorld
      ["deps".toList, "-fdot".toList, "-o.".toList]).tree.readBytes
        ["p".toList, "deps.dot".toList] = .ok bytes
      ∧ (run bareWorld ["deps".toList, "-fdot".toList,
        "-o.".toList]).tree.readBytes
        ["p".toList, "snapshot.json".toList] = .error .notFound := by
  constructor
  · intro htotal
    obtain ⟨snapshot, hsnapshot⟩ := htotal [] ['.'] 0
    cases hsnapshot
  · have hcall :
        bareWorld.packages.call ["deps".toList, "-fdot".toList, "-o.".toList]
          = .run hereRequest := rfl
    obtain ⟨bytes, hwritten⟩ := hasWritten_here
    obtain ⟨lines, hperform⟩ := hwritten.perform_eq
    rw [run_of_call hcall, hperform]
    exact ⟨bytes, rfl, rfl⟩

end SourceAtlas.Cli
