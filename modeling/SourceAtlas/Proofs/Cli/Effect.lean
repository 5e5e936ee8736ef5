/-
What a command does to the file tree. A command that ends early because of
its request has not touched the tree. One that ends well has written its
artifacts and made the directories that lead to them, and nothing else.

- `finish_eq`: writing artifacts ends with exit code 0 or 1, and in the first
  case they have all been written.
- `run_changes_only_artifacts`: the whole program, on any arguments.

The invariant of a sequence of writes is the store's (`Store.Wrote`).
-/
import SourceAtlas.Cli.Basic
import SourceAtlas.Proofs.Artifact.Store
import SourceAtlas.Proofs.Console.Markup
import SourceAtlas.Proofs.Run.Basic

namespace SourceAtlas.Cli

open Node

variable {render : Renderer} {w : World} {r : Request} {s : Store}
  {tree left : Node} {f : Failure} {artifacts : List Artifact}

-- ============================================================== failures

/-- A failure leaves the tree as it is. -/
theorem tree_failed (tree : Node) (f : Failure) :
    (failed render tree f).tree = tree := by
  unfold failed
  split
  all_goals rfl

/-- No failure ends with the exit code of success. -/
theorem exitCode_failed_ne_zero (tree : Node) (f : Failure) :
    (failed render tree f).exitCode ≠ 0 := by
  unfold failed
  split
  case h_1 => cases f <;> exact nofun
  case h_2 => exact nofun
  case h_3 => exact nofun

/-- A failure whose line can be shown. -/
theorem exitCode_failed_of_message? (tree : Node) {message : Text}
    (h : f.message? = some message) {lines : List Text}
    (hlines : complaint render message = .ok lines) :
    (failed render tree f).exitCode = f.exitCode := by
  unfold failed
  rw [h, Option.map_some, hlines]

/-- A failure without a line. -/
theorem failed_eq (tree : Node) (h : f.message? = none) :
    failed render tree f = ⟨1, [], [], some f, tree⟩ := by
  unfold failed
  rw [h]
  rfl

/-- A failure without a message ends with code 1. -/
theorem exitCode_failed (tree : Node) (h : f.message? = none) :
    (failed render tree f).exitCode = 1 := by
  rw [failed_eq tree h]

/-- Showing lines leaves the tree as it is. -/
theorem tree_shown (tree : Node)
    (lines : Except Console.MarkupError (List Text)) :
    (shown render tree lines).tree = tree := by
  cases lines with
  | ok shownLines => rfl
  | error e =>
      show (failed render tree (.markup e)).tree = tree
      rw [tree_failed]

-- =============================================================== writing

/-- The names of the artifacts of a request. -/
def artifactNames (r : Request) : List Text :=
  match r.command, GraphFormat.ofText? r.format with
  | .index, _ => [indexFile, snapshotFile]
  | .deps, some format => [format.fileName, snapshotFile]
  | .all, some format => [indexFile, format.fileName, snapshotFile]
  | _, _ => []

theorem isName_indexFile : Path.IsName indexFile := by decide

theorem isName_snapshotFile : Path.IsName snapshotFile := by decide

/-- The artifact of every format has a name. -/
theorem isName_fileName (format : GraphFormat) :
    Path.IsName format.fileName := by
  cases format <;> decide

/-- Artifacts are written one after the other; something is written after
them. -/
theorem wrote_writeAll {between : Node} {names : List Text}
    (hnames : ∀ name ∈ artifacts.map (·.name), Path.IsName name)
    (h : writeAll s artifacts tree = (.ok (), between))
    (hlast : s.Wrote names between left) :
    s.Wrote (artifacts.map (·.name) ++ names) tree left := by
  induction artifacts generalizing tree with
  | nil =>
      injection h with _ hbetween
      rw [hbetween]
      exact hlast
  | cons a rest ih =>
      rw [writeAll] at h
      split at h
      case h_2 => cases h
      case h_1 place after hwrite =>
        have hfirst :=
          Store.wrote_of_writeWith_eq_ok
            (hnames a.name List.mem_cons_self) hwrite
        have hrest :=
          ih (fun name hname => hnames name (List.mem_cons_of_mem a.name hname))
            h
        exact hfirst.append hrest

/-- Writing fails with what the file system says. -/
theorem message?_of_writeAll
    (h : writeAll s artifacts tree = (.error f, left)) : f.message? = none := by
  induction artifacts generalizing tree with
  | nil => cases h
  | cons a rest ih =>
      rw [writeAll] at h
      split at h
      case h_1 => exact ih h
      case h_2 =>
        injection h with hf _
        injection hf with hf
        rw [← hf]
        rfl

/-- A snapshot that is written is the artifact of its name. -/
theorem wrote_writeSnapshot {root outputDir : Text}
    (h : writeSnapshot w s root outputDir tree = (.ok (), left)) :
    s.Wrote [snapshotFile] tree left := by
  unfold writeSnapshot at h
  split at h
  case h_1 => cases h
  case h_2 snapshot _ =>
    rw [writeAll] at h
    split at h
    case h_2 => cases h
    case h_1 place after hwrite =>
      injection h with _ hafter
      rw [← hafter]
      exact Store.wrote_of_writeWith_eq_ok isName_snapshotFile hwrite

/-- A snapshot that cannot be written fails without a message. -/
theorem message?_of_writeSnapshot {root outputDir : Text}
    (h : writeSnapshot w s root outputDir tree = (.error f, left)) :
    f.message? = none := by
  unfold writeSnapshot at h
  split at h
  case h_1 =>
    injection h with hf _
    injection hf with hf
    rw [← hf]
    rfl
  case h_2 => exact message?_of_writeAll h

/-- Writing the artifacts of a request ends with exit code 1, or with 0 and
all of them written. -/
theorem finish_eq (w : World) (r : Request) (settings : Settings)
    (hnames : ∀ name ∈ artifacts.map (·.name), Path.IsName name)
    (lines : Except Console.MarkupError (List Text)) :
    (finish w r settings artifacts lines).exitCode = 1
      ∨ (Store.ofProject (w.names r.root) settings.outputDir).Wrote
          (artifacts.map (·.name) ++ [snapshotFile]) w.tree
          (finish w r settings artifacts lines).tree
        ∧ (finish w r settings artifacts lines).exitCode = 0 := by
  unfold finish
  simp only
  split
  case h_1 f left hfailed =>
      exact .inl (exitCode_failed left (message?_of_writeAll hfailed))
  case h_2 between hwritten =>
    split
    case h_1 f left hfailed =>
      exact .inl (exitCode_failed left (message?_of_writeSnapshot hfailed))
    case h_2 left hsnapshot =>
      cases lines with
      | error e => exact .inl (exitCode_failed left rfl)
      | ok shownLines =>
          exact .inr ⟨wrote_writeAll hnames hwritten
            (wrote_writeSnapshot hsnapshot), rfl⟩

-- ============================================================== commands

/-- The store of a request under some settings. -/
def storeFor (w : World) (r : Request) (settings : Settings) : Store :=
  Store.ofProject (w.names r.root) settings.outputDir

/-- A project is found where the root leads to a directory. -/
theorem project?_eq_ok_iff {root : Text} {place : List Name} {project : Node} :
    w.project? root = .ok (place, project)
      ↔ w.tree.locate (w.names root) = .ok place
      ∧ w.tree.find? place = some project ∧ project.isDirectory = true := by
  unfold World.project?
  cases w.tree.locate (w.names root) with
  | error fault => simp
  | ok found =>
      simp only [Except.ok.injEq]
      constructor
      · intro h
        split at h
        case h_1 entries hentries =>
          injection h with h
          obtain ⟨rfl, rfl⟩ := Prod.mk.inj h
          exact ⟨rfl, hentries, rfl⟩
        case h_2 => cases h
      · rintro ⟨rfl, hfound, hdir⟩
        rw [hfound]
        cases project with
        | file bytes readable => cases hdir
        | dangling => cases hdir
        | directory entries => rfl

/-- The settings of a run are those of the project with what the request
overrides, and it gives what it is asked for. -/
theorem runFor_eq_ok {wantIndex wantGraph : Bool} {settings : Settings}
    {result : RunResult}
    (h : runFor w r wantIndex wantGraph = .ok (settings, result)) :
    (∃ place project, w.project? r.root = .ok (place, project)
        ∧ settingsFor w.packages.toHost r project = .ok settings)
      ∧ result.index.isSome = wantIndex ∧ result.graph.isSome = wantGraph := by
  unfold runFor at h
  obtain ⟨⟨place, project⟩, hproject, h⟩ := bind_eq_ok_iff.mp h
  obtain ⟨found, hfound, h⟩ := bind_eq_ok_iff.mp h
  obtain ⟨plan, -, h⟩ := bind_eq_ok_iff.mp h
  obtain ⟨given, hrun, h⟩ := bind_eq_ok_iff.mp h
  injection h with h
  injection h with hsettings hresult
  subst hsettings hresult
  exact ⟨⟨place, project, hproject, hfound⟩,
    Run.isSome_of_execute (mapError_eq_ok_iff.mp hrun)⟩

/-- A run goes through its stages. -/
theorem runFor_of_stages {wantIndex wantGraph : Bool} {settings : Settings}
    {result : RunResult} {place : List Name} {project : Node} {plan : Run.Plan}
    (hproject : w.project? r.root = .ok (place, project))
    (hsettings : settingsFor w.packages.toHost r project = .ok settings)
    (hplan : Run.plan w.packages.toHost project (some settings) = .ok plan)
    (hrun : Run.execute plan w.clock wantIndex wantGraph = .ok result) :
    runFor w r wantIndex wantGraph = .ok (settings, result) := by
  refine bind_eq_ok_iff.mpr
    ⟨_, hproject, bind_eq_ok_iff.mpr ⟨settings, hsettings, ?_⟩⟩
  refine bind_eq_ok_iff.mpr ⟨plan, mapError_eq_ok_iff.mpr hplan, ?_⟩
  exact bind_eq_ok_iff.mpr ⟨result, mapError_eq_ok_iff.mpr hrun, rfl⟩

/-- A run of which there are sources gives what it is asked for. -/
theorem exists_runFor_eq_ok {settings : Settings} {place : List Name}
    {project : Node} {plan : Run.Plan}
    (hproject : w.project? r.root = .ok (place, project))
    (hsettings : settingsFor w.packages.toHost r project = .ok settings)
    (hplan : Run.plan w.packages.toHost project (some settings) = .ok plan)
    (hsources : plan.conceptFiles ≠ []) (wantIndex wantGraph : Bool) :
    ∃ result, runFor w r wantIndex wantGraph = .ok (settings, result)
      ∧ result.index.isSome = wantIndex ∧ result.graph.isSome = wantGraph := by
  obtain ⟨result, hrun⟩ :
      ∃ result, Run.execute plan w.clock wantIndex wantGraph = .ok result :=
    Run.exists_execute_eq_ok_iff.mpr hsources
  exact ⟨result, runFor_of_stages hproject hsettings hplan hrun,
    Run.isSome_of_execute hrun⟩

/-- The index is one artifact. -/
theorem names_indexParts (r : Request) (settings : Settings)
    (result : RunResult) :
    (indexParts render r settings result).1.map (·.name)
      = if result.index.isSome then [indexFile] else [] := by
  unfold indexParts
  cases result.index with
  | none => rfl
  | some index => rfl

/-- So is the graph. -/
theorem names_graphParts (r : Request) (settings : Settings)
    (format : GraphFormat) (result : RunResult) :
    (graphParts render r settings format result).1.map (·.name)
      = if result.graph.isSome then [format.fileName] else [] := by
  unfold graphParts
  cases result.graph with
  | none => rfl
  | some graph => rfl

/-- The artifacts of a run but for the snapshot. -/
def artifactsOf (render : Renderer) (r : Request) (settings : Settings)
    (format : GraphFormat) (result : RunResult) : List Artifact :=
  (indexParts render r settings result).1
    ++ (graphParts render r settings format result).1

/-- Each artifact of a run has a name of its own. -/
theorem names_artifactsOf (r : Request) (settings : Settings)
    (format : GraphFormat) (result : RunResult) :
    (artifactsOf render r settings format result).map (·.name)
      = (if result.index.isSome then [indexFile] else [])
        ++ if result.graph.isSome then [format.fileName] else [] := by
  rw [artifactsOf, List.map_append, names_indexParts, names_graphParts]

/-- All artifacts of a command have names. -/
theorem isName_artifactsOf {settings : Settings} {format : GraphFormat}
    {result : RunResult} :
    ∀ name ∈ (artifactsOf render r settings format result).map (·.name),
      Path.IsName name := by
  rw [names_artifactsOf]
  intro name hname
  rcases List.mem_append.mp hname with hname | hname
  · rw [List.eq_of_mem_singleton (List.mem_ite_nil_right.mp hname).2]
    exact isName_indexFile
  · rw [List.eq_of_mem_singleton (List.mem_ite_nil_right.mp hname).2]
    exact isName_fileName format

/-- How a request can end: before anything is written, while writing, or with
all its artifacts written, in the output directory of its project. -/
inductive Ends (w : World) (r : Request) (names : List Text) (out : Outcome) :
    Prop where
  | early (htree : out.tree = w.tree) (hexit : out.exitCode ≠ 0)
  | writing (hexit : out.exitCode = 1)
  | done (hexit : out.exitCode = 0) (place : List Name) (project : Node)
      (settings : Settings)
      (hproject : w.project? r.root = .ok (place, project))
      (hsettings : settingsFor w.packages.toHost r project = .ok settings)
      (hwrote : (Store.ofProject (w.names r.root) settings.outputDir).Wrote
        names w.tree out.tree)

/-- A command that fails at once changes nothing. -/
theorem ends_failed (w : World) (r : Request) (names : List Text)
    (f : Failure) : Ends w r names (failed w.packages.render w.tree f) :=
  .early (tree_failed w.tree f) (exitCode_failed_ne_zero w.tree f)

/-- A building command changes its artifacts only. -/
theorem ends_build (w : World) (r : Request) (wantIndex wantGraph : Bool)
    (format : GraphFormat) :
    Ends w r ((if wantIndex then [indexFile] else [])
        ++ (if wantGraph then [format.fileName] else []) ++ [snapshotFile])
      (build w r wantIndex wantGraph format) := by
  unfold build
  cases hrun : runFor w r wantIndex wantGraph with
  | error f => exact ends_failed w r _ f
  | ok found =>
      obtain ⟨settings, result⟩ := found
      obtain ⟨⟨place, project, hproject, hsettings⟩, hindex, hgraph⟩ :=
        runFor_eq_ok hrun
      rw [← hindex, ← hgraph, ← names_artifactsOf r settings]
      rcases finish_eq w r settings isName_artifactsOf _ with hexit
        | ⟨hwrote, hexit⟩
      · exact .writing hexit
      · exact .done hexit place project settings hproject hsettings hwrote

theorem ends_perform (w : World) (r : Request)
    (hcommand : r.command ≠ .detect) :
    Ends w r (artifactNames r) (perform w r) := by
  unfold perform artifactNames
  cases hr : r.command with
  | detect => exact absurd hr hcommand
  | index => exact ends_build w r true false .mermaid
  | deps =>
      cases GraphFormat.ofText? r.format with
      | none => exact ends_failed w r _ _
      | some format => exact ends_build w r false true format
  | all =>
      cases GraphFormat.ofText? r.format with
      | none => exact ends_failed w r _ _
      | some format => exact ends_build w r true true format

theorem tree_showProfile (w : World) (r : Request) :
    (showProfile w r).tree = w.tree := by
  unfold showProfile
  split
  case h_1 => exact tree_failed w.tree _
  case h_2 =>
    split
    case h_1 => exact tree_failed w.tree _
    case h_2 => exact tree_shown w.tree _

-- ========================================================= the program

/-- Arguments that ask for a request have it carried out. -/
theorem run_of_call {args : List Text} (h : w.packages.call args = .run r) :
    run w args = perform w r := by
  unfold run
  rw [h]

/-- Whatever the arguments. A failure of the program's own kind, and any
other with its exit codes, leaves the tree as it was; so do calls that ask
for no artifacts. A call that asks for them and ends well has written them in
the output directory: all other files are as they were, directories stay, and
new ones lead to the output directory. -/
theorem run_changes_only_artifacts (w : World) (args : List Text) :
    ((run w args).exitCode = 2 ∨ (run w args).exitCode = 3
      → (run w args).tree = w.tree)
    ∧ ((∀ r, w.packages.call args = .run r → r.command = .detect)
      → (run w args).tree = w.tree)
    ∧ ∀ r, w.packages.call args = .run r → r.command ≠ .detect →
      (run w args).exitCode = 0 →
      ∃ root project settings place, w.project? r.root = .ok (root, project)
        ∧ settingsFor w.packages.toHost r project = .ok settings
        ∧ (run w args).tree.locate
            (Store.ofProject (w.names r.root) settings.outputDir).directory
              = .ok place
        ∧ (∀ path, (∀ name ∈ artifactNames r, path ≠ place ++ [name]) →
            (run w args).tree.leafAt? path = w.tree.leafAt? path)
        ∧ (∀ name ∈ artifactNames r, ∃ content,
            (run w args).tree.leafAt? (place ++ [name])
              = some (.file content true))
        ∧ (∀ path, w.tree.directoryAt path = true
          → (run w args).tree.directoryAt path = true)
        ∧ ∀ path, (run w args).tree.directoryAt path = true
          → w.tree.directoryAt path = true
          ∨ (w.tree.find? path = none
            ∧ ∃ up, up <+: (Store.ofProject (w.names r.root)
              settings.outputDir).directory
              ∧ (run w args).tree.locate up = .ok path) := by
  have hquiet : (∀ r, w.packages.call args = .run r → r.command = .detect) →
      (run w args).tree = w.tree := by
    intro hdetect
    cases hcall : w.packages.call args with
    | run r =>
        rw [run_of_call hcall, perform, hdetect r hcall]
        exact tree_showProfile w r
    | misuse => rw [run, hcall]
    | help => rw [run, hcall]
    | version => rw [run, hcall]
  refine ⟨?_, hquiet, ?_⟩
  · intro hexit
    -- Only a call that asks for artifacts writes, and by then its exit code is
    -- 0 or 1.
    by_cases hwrites : ∃ r, w.packages.call args = .run r ∧ r.command ≠ .detect
    · obtain ⟨r, hcall, hcommand⟩ := hwrites
      rw [run_of_call hcall] at hexit ⊢
      cases ends_perform w r hcommand with
      | early htree _ => exact htree
      | writing hone => rw [hone] at hexit; omega
      | done hzero => rw [hzero] at hexit; omega
    · exact hquiet fun r hcall =>
        Classical.not_not.mp fun hcommand => hwrites ⟨r, hcall, hcommand⟩
  · intro r hcall hcommand hexit
    rw [run_of_call hcall] at hexit ⊢
    cases ends_perform w r hcommand with
    | early _ hne => exact absurd hexit hne
    | writing hone => rw [hone] at hexit; cases hexit
    | done _ root project settings hproject hsettings hwrote =>
        obtain ⟨place, hframe⟩ := hwrote.frame
        exact ⟨root, project, settings, place, hproject, hsettings, hframe⟩

/-- A project with one source. -/
def bareProject : Node := .directory [("setup.py".toList, .file [] true)]

/-- The project seen from inside. -/
def bareWorld : World :=
  ⟨.directory [("p".toList, bareProject)], ["p".toList], 0, .standard⟩

/-- Its graph is wanted in a new directory. -/
def bareRequest : Request :=
  { command := .deps, outputDir := some "out".toList, format := "dot" }

/-- The plan for it. -/
def barePlan : Run.Plan :=
  Run.freshPlan bareProject { outputDir := "out" } ⟨.python, .none, []⟩
    ⟨[.decorator], some .python, some .python⟩

theorem exists_runFor_bare : ∃ result graph,
    runFor bareWorld bareRequest false true
      = .ok ({ outputDir := "out" }, result)
      ∧ result.index = none ∧ result.graph = some graph := by
  have hproject : bareWorld.project? bareRequest.root
      = .ok (["p".toList], bareProject) := rfl
  have hsettings : settingsFor .standard bareRequest bareProject
      = .ok { outputDir := "out" } := rfl
  have hplan : Run.plan .standard bareProject (some { outputDir := "out" })
      = .ok barePlan :=
    Run.plan_eq_ok_iff.mpr
      ⟨_, ⟨.python, .none, []⟩, ⟨[.decorator], some .python, some .python⟩, rfl,
        rfl, rfl, rfl⟩
  obtain ⟨result, hrun, hindex, hgraph⟩ :=
    exists_runFor_eq_ok hproject hsettings hplan (by decide) false true
  obtain ⟨graph, hgraph⟩ := Option.isSome_iff_exists.mp hgraph
  exact ⟨result, graph, hrun, by simpa using hindex, hgraph⟩

/-- Whatever the graph is, it can be written, and the snapshot as well. -/
theorem exitCode_finish_bare (graph : Text) (lines : List Text) :
    (finish bareWorld bareRequest { outputDir := "out" } [⟨"deps.dot", graph⟩]
      (.ok lines)).exitCode
      = 0 := by
  let written : Node :=
    .directory [("setup.py".toList, .file [] true),
      ("out".toList, .directory
        [("deps.dot".toList, .file (Utf8.encode graph) true)])]
  have hstore : Store.ofProject (bareWorld.names bareRequest.root) "out".toList
      = ⟨["p".toList, "out".toList]⟩ := rfl
  have hgraph :
    (Store.mk ["p".toList, "out".toList]).write bareWorld.tree "deps.dot" graph
      = (.ok ["p".toList, "out".toList, "deps.dot".toList],
        .directory [("p".toList, written)]) := rfl
  have hstat :
      (Node.directory [("p".toList, written)]).stat
        (bareWorld.names bareRequest.root) = .ok written := rfl
  obtain ⟨snapshot, hbuild⟩ :
      ∃ snapshot, Snapshot.build (.ok written) "out" bareWorld.clock
        = .ok snapshot := ⟨_, rfl⟩
  have hsnapshot : ∀ text, (Store.mk ["p".toList, "out".toList]).write
      (.directory [("p".toList, written)]) snapshotFile text
      = (.ok ["p".toList, "out".toList, snapshotFile], _) :=
        fun text => Prod.ext rfl rfl
  unfold finish writeSnapshot
  simp only [hstore, writeAll, hgraph, hstat, hbuild, hsnapshot, shown]

/-- The line for an artifact can be shown if there is no markup in its path. -/
theorem exists_wrote {path : Text}
    (hpieces : Console.pieces ("[green]✓[/green] Wrote ".toList ++ path)
      = [.plain [], .plain [], .tag ⟨"green".toList, none⟩, .plain ['✓'],
        .plain [], .tag ⟨'/' :: "green".toList, none⟩, .plain
    (" Wrote ".toList ++ path)]) :
    ∃ lines, wrote Console.render path = .ok lines := by
  have hgreen : Console.ColorWord "green".toList :=
    ⟨rfl, rfl, rfl, rfl, by decide, rfl, by decide⟩
  exact Console.exists_render_of_marked hgreen (by decide) hpieces

/-- A graph alone, if the line about it can be shown. -/
theorem build_eq_finish {settings : Settings} {result : RunResult}
    {graph : DependencyGraph} {format : GraphFormat} {lines : List Text}
    (hrun : runFor w r false true = .ok (settings, result))
    (hindex : result.index = none) (hgraph : result.graph = some graph)
    (hlines : wrote w.packages.render
      (shownPath r.root settings.outputDir format.fileName) = .ok lines) :
    build w r false true format
      = finish w r settings [⟨format.fileName, graph.render format⟩]
        (.ok (graphCounts graph :: lines)) := by
  have hsummary : graphSummary w.packages.render graph
      (shownPath r.root settings.outputDir format.fileName)
      = .ok (graphCounts graph :: lines) := by
    unfold graphSummary
    rw [hlines]
    rfl
  unfold build
  rw [hrun]
  simp only [indexParts, graphParts, hindex, hgraph, hsummary]
  rfl

theorem exitCode_run_bare :
    (run bareWorld ["deps".toList, "-fdot".toList, "-oout".toList]).exitCode
      = 0 := by
  have hcall : bareWorld.packages.call
      ["deps".toList, "-fdot".toList, "-oout".toList] = .run bareRequest := rfl
  have hformat : GraphFormat.ofText? bareRequest.format = some .dot := rfl
  have hshown : shownPath bareRequest.root "out" GraphFormat.dot.fileName
      = "out/deps.dot".toList := rfl
  obtain ⟨result, graph, hrun, hindex, hgraph⟩ := exists_runFor_bare
  obtain ⟨lines, hlines⟩ :
      ∃ lines, wrote Console.render "out/deps.dot" = .ok lines :=
    exists_wrote (by decide +kernel)
  rw [← hshown] at hlines
  have hperform : perform bareWorld bareRequest
      = build bareWorld bareRequest false true .dot := by
    unfold perform
    rw [hformat]
    rfl
  rw [run_of_call hcall, hperform, build_eq_finish hrun hindex hgraph hlines]
  exact exitCode_finish_bare _ _

/-- A format that there is not. -/
theorem exitCode_run_pdf :
    (run bareWorld ["deps".toList, "-fpdf".toList]).exitCode = 2 := by
  have hcall : bareWorld.packages.call ["deps".toList, "-fpdf".toList]
      = .run { command := .deps, format := "pdf" } := rfl
  have hformat : GraphFormat.ofText? "pdf".toList = none := rfl
  have hred : Console.ColorWord "red".toList :=
    ⟨rfl, rfl, rfl, rfl, by decide, rfl, by decide⟩
  have hpieces : Console.pieces ("[red]✗[/red] ".toList
        ++ "Unknown format 'pdf'. Choose one of: mermaid, dot, json.".toList)
      = [.plain [], .plain [], .tag ⟨"red".toList, none⟩, .plain ['✗'],
        .plain [], .tag ⟨'/' :: "red".toList, none⟩,
        .plain (" Unknown format 'pdf'. Choose one of: ".toList
          ++ "mermaid, dot, json.".toList)] := by
    decide +kernel
  obtain ⟨lines, hlines⟩ :=
    Console.exists_render_of_marked hred (by decide) hpieces
  have hmessage : (Failure.unknownFormat "pdf".toList).message?
      = some ("Unknown format 'pdf'. Choose one of: ".toList
        ++ "mermaid, dot, json.".toList) := rfl
  have hcomplaint : complaint bareWorld.packages.render
      "Unknown format 'pdf'. Choose one of: mermaid, dot, json.".toList
      = .ok lines := by
    have hrender : bareWorld.packages.render = Console.render := rfl
    rw [complaint, hrender, hlines]
  rw [run_of_call hcall, perform, hformat]
  exact exitCode_failed_of_message? bareWorld.tree hmessage hcomplaint

/-- A graph is written and nothing else changes, while a format that there is
not leaves all as it was. -/
theorem run_changes_only_artifacts_bare :
    (run bareWorld ["deps".toList, "-fdot".toList, "-oout".toList]).exitCode = 0
    ∧ (∃ place, (run bareWorld
      ["deps".toList, "-fdot".toList, "-oout".toList]).tree.locate
        ["p".toList, "out".toList] = .ok place
      ∧ (∀ path, path ≠ place ++ ["deps.dot".toList] →
        path ≠ place ++ ["snapshot.json".toList] →
        (run bareWorld ["deps".toList, "-fdot".toList,
          "-oout".toList]).tree.leafAt? path
          = bareWorld.tree.leafAt? path)
      ∧ ∃ content, (run bareWorld
        ["deps".toList, "-fdot".toList, "-oout".toList]).tree.leafAt?
          (place ++ ["deps.dot".toList]) = some (.file content true))
    ∧ (run bareWorld ["deps".toList, "-fpdf".toList]).exitCode = 2
    ∧ (run bareWorld ["deps".toList, "-fpdf".toList]).tree
      = bareWorld.tree := by
  have hcall : bareWorld.packages.call
      ["deps".toList, "-fdot".toList, "-oout".toList] = .run bareRequest := rfl
  have hnames : artifactNames bareRequest
      = ["deps.dot".toList, "snapshot.json".toList] := rfl
  obtain ⟨root, project, settings, place, hproject, hsettings, hplace, hleaf,
    hwritten, -⟩ :=
    (run_changes_only_artifacts bareWorld
      ["deps".toList, "-fdot".toList, "-oout".toList]).2.2 bareRequest hcall
      (by decide) exitCode_run_bare
  obtain ⟨rfl, rfl⟩ : ["p".toList] = root ∧ bareProject = project :=
    Prod.mk.inj (Except.ok.inj hproject)
  obtain rfl : { outputDir := "out" } = settings := Except.ok.inj hsettings
  rw [hnames] at hleaf hwritten
  refine ⟨exitCode_run_bare, ⟨place, hplace, ?_, hwritten _ (by simp)⟩,
    exitCode_run_pdf, ?_⟩
  · intro path hgraph hsnapshot
    refine hleaf path ?_
    simpa using ⟨hgraph, hsnapshot⟩
  · exact (run_changes_only_artifacts bareWorld
      ["deps".toList, "-fpdf".toList]).1 (.inl exitCode_run_pdf)

end SourceAtlas.Cli
