/-
Indexing twice. A run that has written its index leaves a tree that differs
from the one before in two artifacts and in directories. No artifact is a file
that a run looks at, wherever the output directory lies, so the run on that
tree finds what the first one found (`sameSources_of_changesOnly`,
`runFor_of_sameSources`). It can also write it: the output directory is there
and neither artifact is a directory (`exists_finish_eq`). All that the second
run may change is the snapshot, which also records what the first run made.

- `Indexed`: what a successful run leaves in the store.
- `index_again_is_the_same`: the whole program, on any arguments.
-/
import SourceAtlas.Proofs.Artifact.Fresh
import SourceAtlas.Proofs.Artifact.Snapshot
import SourceAtlas.Proofs.Cli.Effect
import SourceAtlas.Proofs.Run.Sources

namespace SourceAtlas

namespace Cli

open Node

variable {w : World} {r : Request} {settings : Settings} {content : Text}
  {lines : Except Console.MarkupError (List Text)}

-- ================================================================ writing

theorem writeAll_singleton_iff {s : Store} {a : Artifact} {tree left : Node} :
    writeAll s [a] tree = (.ok (), left)
      ↔ ∃ place, s.write tree a.name a.content = (.ok place, left) := by
  unfold writeAll
  cases s.write tree a.name a.content with
  | mk result after =>
      cases result with
      | error fault => simp
      | ok place => simp [writeAll]

/-- A run that ends well has written the index and then the snapshot. -/
theorem finish_eq_of_exitCode
    (h : (finish w r settings [⟨indexFile, content⟩] lines).exitCode = 0) :
    ∃ shownLines place between snapshot place' left, lines = .ok shownLines
      ∧ (storeFor w r settings).write w.tree indexFile content
        = (.ok place, between)
      ∧ Snapshot.build (between.stat (w.names r.root)) settings.outputDir
        w.clock = .ok snapshot
      ∧ (storeFor w r settings).write between snapshotFile
        snapshot.document.write
        = (.ok place', left)
      ∧ finish w r settings [⟨indexFile, content⟩] lines
        = ⟨0, shownLines, [], none, left⟩ := by
  -- A step that fails ends with another exit code, so each has succeeded.
  unfold finish at h ⊢
  simp only at h ⊢
  split at h
  case h_1 f left hfailed => exact absurd h (exitCode_failed_ne_zero left f)
  case h_2 between hwritten =>
    obtain ⟨place, hwrite⟩ := writeAll_singleton_iff.mp hwritten
    split at h
    case h_1 f left hfailed => exact absurd h (exitCode_failed_ne_zero left f)
    case h_2 left hsnapshot =>
      cases lines with
      | error e => exact absurd h (exitCode_failed_ne_zero left _)
      | ok shownLines =>
          unfold writeSnapshot at hsnapshot
          split at hsnapshot
          case h_1 => cases hsnapshot
          case h_2 snapshot hbuild =>
            obtain ⟨place', hwrite'⟩ := writeAll_singleton_iff.mp hsnapshot
            exact ⟨shownLines, place, between, snapshot, place', left, rfl,
              hwrite, hbuild, hwrite', rfl⟩

/-- The index with some content and a snapshot are in a store, which is at
`place`. -/
structure Indexed (s : Store) (content : Text) (place : List Name)
    (tree : Node) : Prop where
  located : tree.locate s.directory = .ok place
  directory : tree.kindAt place = some .directory
  index : tree.kindAt (place ++ [indexFile])
    = some (.file (Utf8.encode content) true)
  snapshot : ∃ bytes, tree.kindAt (place ++ [snapshotFile])
    = some (.file bytes true)

/-- The index that was written can be read back. -/
theorem Indexed.readBytes_eq {s : Store} {place : List Name} {tree : Node}
    (h : Indexed s content place tree) :
    tree.readBytes (s.artifactPath indexFile) = .ok (Utf8.encode content) := by
  obtain ⟨hnames, hplace⟩ := locate_eq_ok_iff.mp h.located
  have hthere : tree.kindAt (place ++ [indexFile]) ≠ none := by
    rw [h.index]
    exact nofun
  rw [Store.artifactPath_of_isName s isName_indexFile]
  exact readBytes_eq_ok
    (locate_concat (areNames_concat hnames (by decide)) (by decide) hplace
      hthere) h.index

/-- The index and the snapshot lie in different places. -/
theorem concat_indexFile_ne (place : List Name) :
    place ++ [indexFile] ≠ place ++ [snapshotFile] := by
  rw [Ne, List.append_cancel_left_eq]
  decide

/-- What the two writes leave behind. -/
theorem indexed_of_writes {s : Store} {tree between left : Node}
    {snapshot : Text} {first second : List Name}
    (hfirst : s.write tree indexFile content = (.ok first, between))
    (hsecond : s.write between snapshotFile snapshot = (.ok second, left)) :
    ∃ place, Indexed s content place left
      ∧ ChangesOnly s.directory
        (fun q => ∃ name ∈ [indexFile, snapshotFile], q = place ++ [name])
        tree left := by
  obtain ⟨place, -, hat, hdir, hchanges, hindex⟩ :=
    Store.exists_above_of_writeWith_eq_ok isName_indexFile hfirst
  obtain ⟨place', -, hat', hdir', hchanges', hsnapshot⟩ :=
    Store.exists_above_of_writeWith_eq_ok isName_snapshotFile hsecond
  obtain rfl : place' = place := by
    have hkept := locate_of_keepsDirectories hchanges'.keepsDirectories hat hdir
    exact Except.ok.inj (hat'.symm.trans hkept)
  refine ⟨place', ⟨hat', hdir', ?_, _, hsnapshot⟩, ?_⟩
  · -- the second write is elsewhere
    rcases hchanges' (place' ++ [indexFile]) with hsame | ⟨hnone, -, -⟩
      | ⟨hother, -, -⟩
    · rw [hsame, hindex]
    · rw [hindex] at hnone
      cases hnone
    · exact absurd hother (concat_indexFile_ne place')
  · refine (hchanges.mono List.prefix_rfl ?_).trans
      (hchanges'.mono List.prefix_rfl ?_)
    · intro q hq
      exact ⟨indexFile, List.mem_cons_self, hq⟩
    · intro q hq
      exact ⟨snapshotFile, List.mem_cons_of_mem _ List.mem_cons_self, hq⟩

/-- Where the output directory is there and no artifact is a directory,
writing succeeds and changes the artifacts only. -/
theorem exists_finish_eq {place root : List Name} {ignore : List Name}
    (hplace : w.tree.locate (storeFor w r settings).directory = .ok place)
    (hdir : w.tree.kindAt place = some .directory)
    (hindex : w.tree.kindAt (place ++ [indexFile]) ≠ some .directory)
    (hsnapshot : w.tree.kindAt (place ++ [snapshotFile]) ≠ some .directory)
    (hroot : w.tree.locate (w.names r.root) = .ok root)
    (hrootdir : w.tree.kindAt root = some .directory)
    (hignore : Snapshot.ignored settings.outputDir = .ok ignore)
    (shownLines : List Text) :
    ∃ left, finish w r settings [⟨indexFile, content⟩] (.ok shownLines)
        = ⟨0, shownLines, [], none, left⟩
      ∧ Indexed (storeFor w r settings) content place left
      ∧ ∀ q, q ≠ place ++ [indexFile] → q ≠ place ++ [snapshotFile] →
        left.kindAt q = w.tree.kindAt q := by
  obtain ⟨between, hwrite, hplaced⟩ :=
    Store.exists_write_eq_ok hplace hdir isName_indexFile (by decide)
      hindex content
  have hkept := hplaced.keepsDirectories
  -- the snapshot is made of the tree that has the index
  obtain ⟨entries, hentries⟩ := exists_entries_of_kindAt (hkept root hrootdir)
  have hstat :=
    stat_of_find? (locate_of_keepsDirectories hkept hroot hrootdir) hentries
  obtain ⟨snapshot, hbuild⟩ :
      ∃ snapshot, Snapshot.build (between.stat (w.names r.root))
        settings.outputDir w.clock = .ok snapshot :=
    Snapshot.exists_build_eq_ok_iff.mpr ⟨⟨ignore, hignore⟩, entries, hstat⟩
  have hother : between.kindAt (place ++ [snapshotFile]) ≠ some .directory := by
    rw [hplaced.kindAt_eq, if_neg (concat_indexFile_ne place).symm]
    exact hsnapshot
  obtain ⟨left, hwrite', hplaced'⟩ :=
    Store.exists_write_eq_ok (locate_of_keepsDirectories hkept hplace hdir)
      (hkept place hdir) isName_snapshotFile (by decide) hother
      snapshot.document.write
  have hall : writeAll (storeFor w r settings) [⟨indexFile, content⟩] w.tree
      = (.ok (), between) :=
    writeAll_singleton_iff.mpr ⟨_, hwrite⟩
  have hlast :
      writeSnapshot w (storeFor w r settings) r.root settings.outputDir between
        = (.ok (), left) := by
    unfold writeSnapshot
    rw [hbuild]
    exact writeAll_singleton_iff.mpr ⟨_, hwrite'⟩
  have hkept' := hplaced'.keepsDirectories
  have hplace' := locate_of_keepsDirectories hkept hplace hdir
  refine ⟨left, ?_,
    ⟨locate_of_keepsDirectories hkept' hplace' (hkept place hdir),
      hkept' place (hkept place hdir), ?_, _, hplaced'.kindAt_self⟩, ?_⟩
  · unfold finish
    simp only [← storeFor.eq_1, hall, hlast]
    rfl
  · rw [hplaced'.kindAt_eq, if_neg (concat_indexFile_ne place),
      hplaced.kindAt_self]
  · intro q hq hq'
    rw [hplaced'.kindAt_eq, if_neg hq', hplaced.kindAt_eq, if_neg hq]

-- ================================================================ running

/-- The artifacts of an index are nothing that an index depends on. -/
theorem sameSources_of_changesOnly {before after project project' : Node}
    {path place root : List Name} (hwf : before.wellFormed = true)
    (hwf' : after.wellFormed = true)
    (hproject : before.find? root = some project)
    (hproject' : after.find? root = some project')
    (hchanges : ChangesOnly path
      (fun q => ∃ name ∈ [indexFile, snapshotFile], q = place ++ [name])
      before after) :
    SameSources project project' := by
  have hleaf : ∀ up name, name ∉ [indexFile, snapshotFile] →
      project'.leafAt? (up ++ [name]) = project.leafAt? (up ++ [name]) := by
    intro up name hname
    have hsame : after.leafAt? (root ++ (up ++ [name]))
        = before.leafAt? (root ++ (up ++ [name])) := by
      apply hchanges.leafAt?_eq
      rintro ⟨artifact, hartifact, hq⟩
      rw [← List.append_assoc] at hq
      obtain rfl : name = artifact :=
        List.singleton_inj.mp (List.append_inj' hq rfl).2
      exact hname hartifact
    unfold leafAt? at hsame ⊢
    rwa [find?_append, find?_append, hproject, hproject'] at hsame
  -- Neither artifact is a file that detection or resolution consults, nor has
  -- it the extension of a source.
  refine ⟨wellFormed_of_find? hwf hproject,
    wellFormed_of_find? hwf' hproject', ?_, ?_⟩
  · intro name hname
    apply hleaf []
    have hinert :
        ∀ artifact ∈ [indexFile, snapshotFile], artifact ∉ consulted := by
      decide
    exact fun hartifact => hinert name hartifact hname
  · intro up name hext
    apply hleaf up
    have hinert : ∀ artifact ∈ [indexFile, snapshotFile],
        Path.extension artifact ∉ Language.allExtensions := by decide
    exact fun hartifact => hinert name hartifact hext

/-- A run over a project with the same sources gives the same index. -/
theorem runFor_of_sameSources {w' : World} {place place' : List Name}
    {project project' : Node} {result : RunResult}
    (hproject : w.project? r.root = .ok (place, project))
    (hproject' : w'.project? r.root = .ok (place', project'))
    (hclock : w'.clock = w.clock) (hpackages : w'.packages = w.packages)
    (hsame : SameSources project project')
    (h : runFor w r true false = .ok (settings, result)) :
    runFor w' r true false = .ok (settings, result) := by
  obtain ⟨found, hfound, h⟩ := bind_eq_ok_iff.mp h
  obtain rfl : (place, project) = found :=
    Except.ok.inj (hproject.symm.trans hfound)
  obtain ⟨loaded, hloaded, h⟩ := bind_eq_ok_iff.mp h
  obtain ⟨plan, hplan, h⟩ := bind_eq_ok_iff.mp h
  obtain ⟨given, hrun, hgiven⟩ := bind_eq_ok_iff.mp h
  obtain ⟨kind, rules, rfl, hplan'⟩ :=
    Run.plan_of_sameSources hsame (mapError_eq_ok_iff.mp hplan)
  rw [← hpackages] at hloaded hplan'
  have hloaded' : settingsFor w'.packages.toHost r project' = .ok loaded := by
    unfold settingsFor at hloaded ⊢
    rw [Settings.load_of_sameSources _ hsame]
    exact hloaded
  have hrun' :
      Run.execute (Run.freshPlan project' loaded kind rules) w'.clock true false
        = .ok given := by
    rw [Run.execute_of_sameSources hsame, hclock]
    exact mapError_eq_ok_iff.mp hrun
  injection hgiven with hgiven
  rw [← hgiven]
  exact runFor_of_stages hproject' hloaded' hplan' hrun'

theorem wellFormed_of_write {s : Store} {tree left : Node} {name : Text}
    {place : List Name} (hwf : tree.wellFormed = true)
    (hdirectory : ∀ part ∈ s.directory, CanFollow part)
    (hname : Path.IsName name)
    (h : s.write tree name content = (.ok place, left)) :
    left.wellFormed = true := by
  have hleft : (s.write tree name content).2.wellFormed = true :=
    Store.wellFormed_writeWith hwf hdirectory hname content none
  rwa [h] at hleft

-- ============================================================ the program

/-- The world that a call leaves behind, at the same time. -/
def World.after (w : World) (args : List Text) : World :=
  { w with tree := (run w args).tree }

/-- A run for the index alone. -/
theorem build_eq_finish_index {result : RunResult} {index : CodeIndex}
    {format : GraphFormat}
    (hrun : runFor w r true false = .ok (settings, result))
    (hindex : result.index = some index) (hgraph : result.graph = none) :
    build w r true false format
      = finish w r settings [⟨indexFile, index.render⟩]
      (indexSummary w.packages.render index
        (shownPath r.root settings.outputDir indexFile)) := by
  unfold build
  rw [hrun]
  simp only [indexParts, graphParts, hindex, hgraph]
  cases indexSummary w.packages.render index
      (shownPath r.root settings.outputDir indexFile) with
  | error e => rfl
  | ok summary =>
      simp only [bind, Except.bind, pure, Except.pure, List.append_nil]

/-- A call for the index alone. -/
theorem run_index {args : List Text} (hcall : w.packages.call args = .run r)
    (hcommand : r.command = .index) :
    run w args = build w r true false .mermaid := by
  rw [run_of_call hcall, perform, hcommand]

/-- What a run for the index has done when it ends well, and the tree that it
leaves. -/
structure IndexRun (w : World) (r : Request) (settings : Settings)
    (result : RunResult) (index : CodeIndex) (shownLines : List Text)
    (place : List Name) (left : Node) : Prop where
  found : runFor w r true false = .ok (settings, result)
  index_eq : result.index = some index
  graph_eq : result.graph = none
  lines_eq : indexSummary w.packages.render index
    (shownPath r.root settings.outputDir indexFile) = .ok shownLines
  ignored : ∃ ignore, Snapshot.ignored settings.outputDir = .ok ignore
  indexed : Indexed (storeFor w r settings) index.render place left
  changes : ChangesOnly (storeFor w r settings).directory
    (fun q => ∃ name ∈ [indexFile, snapshotFile], q = place ++ [name])
    w.tree left
  wellFormed : w.tree.wellFormed = true → left.wellFormed = true

/-- A call for the index that ends well has done all of that. -/
theorem exists_indexRun {args : List Text}
    (hcall : w.packages.call args = .run r)
    (hcommand : r.command = .index) (hexit : (run w args).exitCode = 0) :
    ∃ settings result index shownLines place left,
      IndexRun w r settings result index shownLines place left
        ∧ run w args = ⟨0, shownLines, [], none, left⟩ := by
  rw [run_index hcall hcommand] at hexit ⊢
  cases hrun : runFor w r true false with
  | error f =>
      unfold build at hexit
      rw [hrun] at hexit
      exact absurd hexit (exitCode_failed_ne_zero w.tree f)
  | ok found =>
      obtain ⟨settings, result⟩ := found
      obtain ⟨⟨root, project, hproject, -⟩, hindex, hgraph⟩ := runFor_eq_ok hrun
      obtain ⟨index, hindex⟩ := Option.isSome_iff_exists.mp hindex
      have hgraph : result.graph = none := by simpa using hgraph
      rw [build_eq_finish_index hrun hindex hgraph] at hexit ⊢
      obtain ⟨shownLines, _, between, snapshot, _, left, hlines, hwrite, hbuild,
        hwrite', hdone⟩ :=
        finish_eq_of_exitCode hexit
      obtain ⟨hignored, -⟩ :=
        Snapshot.exists_build_eq_ok_iff.mp ⟨snapshot, hbuild⟩
      obtain ⟨place, hindexed, hchanges⟩ := indexed_of_writes hwrite hwrite'
      refine ⟨settings, result, index, shownLines, place, left,
        ⟨hrun, hindex, hgraph, hlines, hignored, hindexed, hchanges, ?_⟩, hdone⟩
      intro hwf
      obtain ⟨hroot, -⟩ := project?_eq_ok_iff.mp hproject
      have hfollow :
          ∀ part ∈ (storeFor w r settings).directory, CanFollow part :=
        Store.canFollow_ofProject hwf hroot settings.outputDir
      have hbetween := wellFormed_of_write hwf hfollow isName_indexFile hwrite
      exact wellFormed_of_write hbetween hfollow isName_snapshotFile hwrite'

/-- The run on the tree that is left finds the same and writes it again. -/
theorem IndexRun.again {result : RunResult} {index : CodeIndex}
    {shownLines : List Text} {place : List Name} {left : Node}
    (hwf : w.tree.wellFormed = true)
    (h : IndexRun w r settings result index shownLines place left) :
    runFor { w with tree := left } r true false = .ok (settings, result)
      ∧ ∃ last, build { w with tree := left } r true false .mermaid
          = ⟨0, shownLines, [], none, last⟩
        ∧ Indexed (storeFor w r settings) index.render place last
        ∧ ∀ q, q ≠ place ++ [indexFile] → q ≠ place ++ [snapshotFile] →
          last.kindAt q = left.kindAt q := by
  obtain ⟨⟨root, project, hproject, -⟩, -⟩ := runFor_eq_ok h.found
  obtain ⟨hroot, hfound, hdir⟩ := project?_eq_ok_iff.mp hproject
  have hrootdir : w.tree.kindAt root = some .directory := by
    unfold kindAt
    rw [hfound, Option.map_some, kind_eq_directory_iff.mpr hdir]
  -- the project is where it was, with the same sources
  have hkept := h.changes.keepsDirectories
  have hroot' := locate_of_keepsDirectories hkept hroot hrootdir
  obtain ⟨entries, hfound'⟩ := exists_entries_of_kindAt (hkept root hrootdir)
  have hproject' : World.project? { w with tree := left } r.root
      = .ok (root, .directory entries) :=
    project?_eq_ok_iff.mpr ⟨hroot', hfound', rfl⟩
  have hsame :=
    sameSources_of_changesOnly hwf (h.wellFormed hwf) hfound hfound' h.changes
  have hrun' : runFor { w with tree := left } r true false
      = .ok (settings, result) :=
    runFor_of_sameSources hproject hproject' rfl rfl hsame h.found
  -- and the store takes the same artifacts
  obtain ⟨ignore, hignore⟩ := h.ignored
  obtain ⟨bytes, hsnapshot⟩ := h.indexed.snapshot
  refine ⟨hrun', ?_⟩
  rw [build_eq_finish_index hrun' h.index_eq h.graph_eq, h.lines_eq]
  apply exists_finish_eq h.indexed.located h.indexed.directory _ _ hroot'
    (hkept root hrootdir) hignore shownLines
  · rw [h.indexed.index]
    exact nofun
  · rw [hsnapshot]
    exact nofun

/-- Indexing again, whatever the arguments. If the first call ends well, so
does the second, with the same lines shown; it finds the same settings, lists
the same files and extracts the same index, and the index file has the same
bytes. Nothing at all has changed but the snapshot. -/
theorem index_again_is_the_same {args : List Text}
    (hwf : w.tree.wellFormed = true) (hcall : w.packages.call args = .run r)
    (hcommand : r.command = .index) (hexit : (run w args).exitCode = 0) :
    ∃ settings result place bytes,
      runFor w r true false = .ok (settings, result)
        ∧ runFor (w.after args) r true false = .ok (settings, result)
        ∧ (run (w.after args) args).exitCode = 0
        ∧ (run (w.after args) args).output = (run w args).output
        ∧ (run w args).tree.readBytes
          ((storeFor w r settings).artifactPath indexFile) = .ok bytes
        ∧ (run (w.after args) args).tree.readBytes
            ((storeFor w r settings).artifactPath indexFile) = .ok bytes
        ∧ (run w args).tree.locate (storeFor w r settings).directory = .ok place
        ∧ ∀ path, path ≠ place ++ [snapshotFile] →
          (run (w.after args) args).tree.kindAt path
            = (run w args).tree.kindAt path := by
  obtain ⟨settings, result, index, shownLines, place, left, hran, hfirst⟩ :=
    exists_indexRun hcall hcommand hexit
  obtain ⟨hrun', last, hlast, hindexed, hkept⟩ := hran.again hwf
  have hafter : w.after args = { w with tree := left } := by
    unfold World.after
    rw [hfirst]
  have hagain : run { w with tree := left } args
      = build { w with tree := left } r true false .mermaid :=
    run_index hcall hcommand
  rw [hafter, hagain, hlast, hfirst]
  refine ⟨settings, result, place, _, hran.found, hrun', rfl, rfl,
    hran.indexed.readBytes_eq, hindexed.readBytes_eq, hran.indexed.located, ?_⟩
  intro path hpath
  by_cases hq : path = place ++ [indexFile]
  · rw [hq, hindexed.index, hran.indexed.index]
  · exact hkept path hq hpath

/-- A project with one source and a directory for artifacts. -/
def shelfProject : Node :=
  .directory [("setup.py".toList, .file [] true), ("out".toList, .directory [])]

/-- The project seen from inside. -/
def shelfWorld : World :=
  ⟨.directory [("p".toList, shelfProject)], ["p".toList], 0, .standard⟩

/-- Its index is wanted in that directory. -/
def shelfRequest : Request :=
  { command := .index, outputDir := some "out".toList }

theorem exists_runFor_shelf : ∃ result index,
    runFor shelfWorld shelfRequest true false
      = .ok ({ outputDir := "out" }, result)
      ∧ result.index = some index ∧ result.graph = none := by
  let plan :=
    Run.freshPlan shelfProject { outputDir := "out" } ⟨.python, .none, []⟩
      ⟨[.decorator], some .python, some .python⟩
  have hproject : shelfWorld.project? shelfRequest.root
      = .ok (["p".toList], shelfProject) := rfl
  have hsettings :
      settingsFor shelfWorld.packages.toHost shelfRequest shelfProject
        = .ok { outputDir := "out" } :=
    rfl
  have hplan :
      Run.plan shelfWorld.packages.toHost shelfProject
        (some { outputDir := "out" }) = .ok plan :=
    Run.plan_some_eq_ok_iff.mpr
      ⟨⟨.python, .none, []⟩, ⟨[.decorator], some .python, some .python⟩,
        rfl, rfl, rfl⟩
  obtain ⟨result, hrun, hindex, hgraph⟩ :=
    exists_runFor_eq_ok hproject hsettings hplan (by decide) true false
  obtain ⟨index, hindex⟩ := Option.isSome_iff_exists.mp hindex
  exact ⟨result, index, hrun, hindex, by simpa using hgraph⟩

theorem exists_indexSummary_shelf (index : CodeIndex) :
    ∃ lines, indexSummary Console.render index "out/code-index.json"
      = .ok lines := by
  obtain ⟨lines, hlines⟩ :
      ∃ lines, wrote Console.render "out/code-index.json" = .ok lines :=
    exists_wrote (by decide +kernel)
  refine ⟨indexTable index ++ lines, ?_⟩
  unfold indexSummary
  rw [hlines]
  rfl

theorem exitCode_run_shelf :
    (run shelfWorld ["index".toList, "-oout".toList]).exitCode = 0 := by
  have hcall : shelfWorld.packages.call ["index".toList, "-oout".toList]
      = .run shelfRequest := rfl
  obtain ⟨result, index, hrun, hindex, hgraph⟩ := exists_runFor_shelf
  obtain ⟨lines, hlines⟩ := exists_indexSummary_shelf index
  have hshown : shownPath shelfRequest.root "out" indexFile
      = "out/code-index.json".toList := rfl
  have hplace : shelfWorld.tree.locate
      (storeFor shelfWorld shelfRequest { outputDir := "out" }).directory
      = .ok ["p".toList, "out".toList] := rfl
  have hroot : shelfWorld.tree.locate (shelfWorld.names shelfRequest.root)
      = .ok ["p".toList] := rfl
  obtain ⟨left, hfinish, -⟩ :=
    exists_finish_eq hplace rfl (by decide) (by decide) hroot rfl rfl lines
  have hrender : shelfWorld.packages.render = Console.render := rfl
  rw [run_index hcall rfl, build_eq_finish_index hrun hindex hgraph, hrender,
    hshown, hlines, hfinish]

theorem index_again_is_the_same_shelf :
    (run (shelfWorld.after ["index".toList, "-oout".toList])
        ["index".toList, "-oout".toList]).exitCode = 0
      ∧ ∃ bytes, (run shelfWorld
        ["index".toList, "-oout".toList]).tree.readBytes
          ["p".toList, "out".toList, "code-index.json".toList] = .ok bytes
        ∧ (run (shelfWorld.after ["index".toList, "-oout".toList])
            ["index".toList, "-oout".toList]).tree.readBytes
          ["p".toList, "out".toList, "code-index.json".toList] = .ok bytes := by
  have hcall : shelfWorld.packages.call ["index".toList, "-oout".toList]
      = .run shelfRequest := rfl
  obtain ⟨settings, result, -, bytes, hrun, -, hexit, -, hread, hread', -⟩ :=
    index_again_is_the_same (by decide) hcall rfl exitCode_run_shelf
  obtain ⟨_, _, hshelf, -⟩ := exists_runFor_shelf
  obtain ⟨rfl, -⟩ := Prod.mk.inj (Except.ok.inj (hshelf.symm.trans hrun))
  exact ⟨hexit, bytes, hread, hread'⟩

end Cli

end SourceAtlas
