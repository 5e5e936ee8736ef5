/-
Routing by directories. What decides that a file is read also fixes where its
route begins, although the two look from opposite ends: a file under `api` is
routed from the last `api` on (`appSegments_eq`), and a file under `pages/api`
from the first one (`cut?_pagesMark`). That one is found by its text, with
slashes around the names, so the cut has to be shown to fall between
components: at a slash the text can only be there if the next two components
are `pages` and `api`, and between slashes it cannot be at all. The induction is
on the components above.

Hence files that are read always have a route, handlers are reported with the
route of their directory, and a file and the `index` of a directory of its name
share a route.
-/
import SourceAtlas.Proofs.Extract.Basic
import SourceAtlas.Proofs.Path.Components
import SourceAtlas.Proofs.Route.Handler

namespace SourceAtlas.Route

variable {f : SourceFile} {text : Text} {above segments below parts : List Text}
  {last ext : Text}

-- ==================================================== below the last `api`

/-- What follows the last occurrence of an item does not hold it. -/
theorem afterLastItem_eq {x : Text} (above : List Text) (h : x ∉ below) :
    afterLastItem x (above ++ x :: below) = below := by
  have hbelow : ∀ part ∈ below.reverse, (part != x) = true := by
    intro part hpart
    rw [bne_iff_ne]
    rintro rfl
    exact h (List.mem_reverse.mp hpart)
  rw [afterLastItem, List.reverse_append, List.reverse_cons, List.append_assoc,
    List.takeWhile_append_of_pos hbelow, List.singleton_append,
    List.takeWhile_cons_of_neg (by simp), List.append_nil, List.reverse_reverse]

/-- Below the last `api` directory all segments count. -/
theorem appSegments_eq
    (hdir : directories f = above ++ "api".toList :: segments)
    (hlast : "api".toList ∉ segments) : appSegments f = .ok segments := by
  have hmem : (directories f).contains "api".toList = true := by
    rw [hdir, List.contains_iff_mem]
    exact List.mem_append_right above List.mem_cons_self
  unfold appSegments
  rw [if_pos hmem, hdir, afterLastItem_eq above hlast]

/-- For each method that a file declares a handler for, one entry point is
found: with the route below the last `api`, on the line of the first handler. -/
theorem scanApp_spec (hdir : directories f = above ++ "api".toList :: segments)
    (hlast : "api".toList ∉ segments) (text : Text) :
    ∃ found, Strategy.scan f text .appDirectory = .ok found
      ∧ (found.map (·.method)).Nodup
      ∧ ∀ entry, entry ∈ found ↔ ∃ verb line, FirstDeclaredOn text verb line
        ∧ entry = ⟨verb, build segments, ⟨f.path, line⟩⟩ := by
  refine ⟨(handlerLines text).map fun x => ⟨x.1, build segments, ⟨f.path, x.2⟩⟩,
    ?_, ?_, ?_⟩
  · simp only [Strategy.scan, scanApp, appSegments_eq hdir hlast]
    rfl
  · rw [List.map_map]
    exact nodup_handlerLines text
  · intro entry
    rw [List.mem_map]
    constructor
    · rintro ⟨⟨verb, line⟩, hline, rfl⟩
      exact ⟨verb, line, mem_handlerLines_iff.mp hline, rfl⟩
    · rintro ⟨verb, line, hline, rfl⟩
      exact ⟨(verb, line), mem_handlerLines_iff.mpr hline, rfl⟩

-- ============================================== below the first `pages/api`

/-- The components with a slash before each. -/
def slashed (parts : List Text) : Text := parts.flatMap ('/' :: ·)

/-- A path with a slash in front has one before each part. -/
theorem slash_cons_join (hne : parts ≠ []) :
    '/' :: Text.join ['/'] parts = slashed parts := by
  induction parts with
  | nil => exact absurd rfl hne
  | cons first rest ih =>
      cases rest with
      | nil => exact congrArg ('/' :: ·) (List.append_nil first).symm
      | cons next more =>
          rw [Text.join_cons_cons, List.append_assoc, List.singleton_append,
            ih (List.cons_ne_nil next more)]
          rfl

theorem exists_slashed_append (parts : List Text) (rest : Text) :
    ∃ tail, slashed parts ++ '/' :: rest = '/' :: tail := by
  cases parts with
  | nil => exact ⟨rest, rfl⟩
  | cons part parts => exact ⟨_, rfl⟩

/-- Names between slashes that a path starts with are its first components. -/
theorem prefix_of_slashed {names : List Text} {rest : Text}
    (hnames : ∀ name ∈ names, '/' ∉ name) (hparts : ∀ part ∈ parts, '/' ∉ part)
    (hlength : names.length ≤ parts.length)
    (h : slashed names ++ ['/'] <+: slashed parts ++ '/' :: rest) :
    names <+: parts := by
  induction names generalizing parts with
  | nil => exact List.nil_prefix
  | cons name names ih =>
      cases parts with
      | nil => exact absurd hlength (Nat.not_succ_le_zero names.length)
      | cons part parts =>
          obtain ⟨hname, hnames⟩ := List.forall_mem_cons.mp hnames
          obtain ⟨hpart, hrest⟩ := List.forall_mem_cons.mp hparts
          obtain ⟨after, h⟩ := h
          obtain ⟨u, hu⟩ := exists_slashed_append names after
          obtain ⟨v, hv⟩ := exists_slashed_append parts rest
          have hcut : name ++ '/' :: u = part ++ '/' :: v := by
            have h : '/' :: (name ++ slashed names) ++ ['/'] ++ after
              = '/' :: (part ++ slashed parts) ++ '/' :: rest := h
            rw [← hu, ← hv]
            simpa using h
          obtain ⟨rfl, rfl⟩ := Text.eq_of_append_separator hname hpart hcut
          have hprefix : slashed names ++ ['/']
              <+: slashed parts ++ '/' :: rest :=
            ⟨after, by rw [List.append_assoc, List.singleton_append, hu, hv]⟩
          exact List.cons_prefix_cons.mpr
            ⟨rfl, ih hnames hrest (Nat.le_of_succ_le_succ hlength) hprefix⟩

/-- The two directories under which every file is a route. -/
def pagesApi : List Text := ["pages".toList, "api".toList]

/-- Above the first `pages/api` its text stands at no slash. -/
theorem not_pagesMark_above {part rest : Text}
    (hslash : ∀ p ∈ part :: above, '/' ∉ p)
    (hpair : ¬ pagesApi <:+: part :: above) :
    ¬ pagesMark <+: slashed (part :: above ++ pagesApi) ++ '/' :: rest := by
  intro h
  have hparts : ∀ p ∈ part :: above ++ pagesApi, '/' ∉ p :=
    List.forall_mem_append.mpr ⟨hslash, by decide⟩
  have hnames : pagesApi <+: part :: above ++ pagesApi :=
    prefix_of_slashed (by decide) hparts
      (List.suffix_append _ pagesApi).length_le h
  obtain ⟨hpages, hapi⟩ := List.cons_prefix_cons.mp hnames
  cases above with
  | nil => exact absurd (List.cons_prefix_cons.mp hapi).1 (by decide)
  | cons next more =>
      refine hpair (List.IsPrefix.isInfix ?_)
      rw [← hpages, ← (List.cons_prefix_cons.mp hapi).1]
      exact ⟨more, rfl⟩

/-- A path is cut at its first `pages/api`. -/
theorem cut?_pagesMark (hslash : ∀ part ∈ above, '/' ∉ part)
    (hpair : ¬ pagesApi <:+: above) (rest : Text) :
    Text.cut? pagesMark (slashed (above ++ pagesApi) ++ '/' :: rest)
      = some (slashed above, rest) := by
  induction above with
  | nil => exact Text.cut?_separator '/' "pages/api/".toList rest
  | cons part above ih =>
      obtain ⟨hpart, habove⟩ := List.forall_mem_cons.mp hslash
      have hrest :=
        ih habove fun h => hpair (h.trans (List.suffix_cons part above).isInfix)
      have hmiss := mt List.isPrefixOf_iff_prefix.mp
        (not_pagesMark_above hslash hpair : ¬ pagesMark <+: _ ++ '/' :: rest)
      have hcut :
          Text.cut? pagesMark (part
            ++ (slashed (above ++ pagesApi) ++ '/' :: rest))
            = some (part ++ slashed above, rest) := by
        have hcut := Text.cut?_append "pages/api/".toList
          (slashed (above ++ pagesApi) ++ '/' :: rest) hpart
        exact hcut.trans (congrArg _ hrest)
      have hparts : slashed (part :: above ++ pagesApi) ++ '/' :: rest
          = '/' :: (part ++ (slashed (above ++ pagesApi) ++ '/' :: rest)) := by
        simp [slashed]
      rw [hparts] at hmiss ⊢
      rw [Text.cut?, if_neg hmiss, hcut]
      rfl

/-- The path of a file under `pages/api`. -/
def pagesPath (above below : List Text) : Text :=
  Text.join ['/'] (above ++ pagesApi ++ below)

/-- Of the path of a file everything below its first `pages/api` is kept. -/
theorem cut?_pagesPath (hslash : ∀ part ∈ above, '/' ∉ part)
    (hpair : ¬ pagesApi <:+: above) (hbelow : below ≠ []) :
    Text.cut? pagesMark ('/' :: pagesPath above below)
      = some (slashed above, Text.join ['/'] below) := by
  have hpath : '/' :: pagesPath above below
      = slashed (above ++ pagesApi) ++ '/' :: Text.join ['/'] below := by
    rw [pagesPath, slash_cons_join (by simp [hbelow]), slash_cons_join hbelow,
      slashed, List.flatMap_append]
    rfl
  rw [hpath]
  exact cut?_pagesMark hslash hpair _

/-- An extension belongs to the last part. -/
theorem join_concat_append (segments : List Text) (last ext : Text) :
    Text.join ['/'] (segments ++ [last ++ ext])
      = Text.join ['/'] (segments ++ [last]) ++ ext := by
  cases segments with
  | nil => rfl
  | cons first rest =>
      rw [Text.join_concat (List.cons_ne_nil first rest),
        Text.join_concat (List.cons_ne_nil first rest), ← List.append_assoc]

/-- A file under `pages/api`, in the directory that `segments` lead to. -/
def pagesFile (above segments : List Text) (last ext : Text) : SourceFile :=
  ⟨pagesPath above (segments ++ [last ++ ext]), ext⟩

theorem cut?_pagesFile (hslash : ∀ part ∈ above, '/' ∉ part)
    (hpair : ¬ pagesApi <:+: above) :
    Text.cut? pagesMark ('/' :: (pagesFile above segments last ext).path)
      = some (slashed above, Text.join ['/'] (segments ++ [last]) ++ ext) := by
  rw [pagesFile, cut?_pagesPath hslash hpair (by simp), join_concat_append]

theorem acceptsPages_pagesFile (hslash : ∀ part ∈ above, '/' ∉ part)
    (hpair : ¬ pagesApi <:+: above) :
    acceptsPages (pagesFile above segments last ext) = true := by
  rw [acceptsPages, Text.holds, cut?_pagesFile hslash hpair]
  rfl

/-- The segments of a file are the names below the first `pages/api` without
the extension, and without a closing `index`. -/
theorem pagesSegments_eq (hslash : ∀ part ∈ above, '/' ∉ part)
    (hpair : ¬ pagesApi <:+: above)
    (hsegments : ∀ part ∈ segments ++ [last], '/' ∉ part) :
    pagesSegments (pagesFile above segments last ext)
      = .ok (if last = "index".toList then segments
        else segments ++ [last]) := by
  have hstem : (Text.join ['/'] (segments ++ [last]) ++ ext).take
      ((Text.join ['/'] (segments ++ [last]) ++ ext).length - ext.length)
        = Text.join ['/'] (segments ++ [last]) := by
    rw [List.length_append, Nat.add_sub_cancel, List.take_left]
  have hlast : (segments ++ [last]).getLast? = some "index".toList
      ↔ last = "index".toList := by
    rw [List.getLast?_concat, Option.some.injEq]
  rw [pagesSegments, cut?_pagesFile hslash hpair]
  show Except.ok (if _ then _ else _) = _
  rw [show (pagesFile above segments last ext).extension = ext from rfl, hstem,
    Path.components_join (by simp) hsegments, List.dropLast_concat]
  simp only [hlast]

/-- A file under `pages/api` is one entry point for all methods. -/
theorem scan_pagesFile (hslash : ∀ part ∈ above, '/' ∉ part)
    (hpair : ¬ pagesApi <:+: above)
    (hsegments : ∀ part ∈ segments ++ [last], '/' ∉ part) (ext text : Text) :
    Strategy.scan (pagesFile above segments last ext) text .pagesDirectory
      = .ok
        [⟨anyMethod, build (if last = "index".toList then segments
          else segments ++ [last]),
        ⟨(pagesFile above segments last ext).path, 1⟩⟩] := by
  simp only [Strategy.scan, scanPages, pagesSegments_eq hslash hpair hsegments]
  rfl

-- =========================================================== both layouts

/-- A file under no routing directory. -/
def unrouted : SourceFile := .ofPath "lib/route.ts"

/-- Every file that is read has a route, which not every other file has.
Under `api` it is that of the directories below the last `api`, and each method
is reported with it once, on the line of its first handler. Under `pages/api` a
file has the route of the `index` in the directory of its name, whatever the
extension is. -/
theorem directory_routes_hold :
    (∀ s ∈ [Strategy.appDirectory, .pagesDirectory],
      (∀ f text, s.accepts f = true → ∃ found, s.scan f text = .ok found)
        ∧ ∃ f, s.accepts f = false
          ∧ ∀ text, ∃ problem, s.scan f text = .error problem)
    ∧ (∀ (f : SourceFile) (text : Text) (above segments : List Text),
      directories f = above ++ "api".toList :: segments →
      "api".toList ∉ segments →
        ∃ found, Strategy.scan f text .appDirectory = .ok found
          ∧ (found.map (·.method)).Nodup
          ∧ ∀ entry, entry ∈ found ↔ ∃ verb line, FirstDeclaredOn text verb line
            ∧ entry = ⟨verb, build segments, ⟨f.path, line⟩⟩)
    ∧ ∀ (above segments : List Text) (name ext text : Text),
      (∀ part ∈ above ++ (segments ++ [name]), '/' ∉ part) →
      ¬ pagesApi <:+: above →
      name ≠ "index".toList →
        ∀ file ∈ [pagesFile above segments name ext,
            pagesFile above (segments ++ [name]) "index".toList ext],
          Strategy.accepts file .pagesDirectory = true
            ∧ Strategy.scan file text .pagesDirectory
            = .ok [⟨anyMethod, build (segments ++ [name]),
              ⟨file.path, 1⟩⟩] := by
  refine ⟨?reads, fun f text above segments hdir hlast =>
    scanApp_spec hdir hlast text, ?pages⟩
  case reads =>
    intro s hs
    refine ⟨fun f text haccepts => Strategy.exists_scan_eq_ok haccepts text,
      unrouted, ?_⟩
    simp only [List.mem_cons, List.not_mem_nil, or_false] at hs
    rcases hs with rfl | rfl
    · exact ⟨by decide, fun text => ⟨.noRoutingDirectory, rfl⟩⟩
    · exact ⟨by decide, fun text => ⟨.noPagesDirectory, rfl⟩⟩
  case pages =>
    intro above segments name ext text hslash hpair hname file hfile
    obtain ⟨habove, hsegments⟩ := List.forall_mem_append.mp hslash
    have hindex : ∀ part ∈ segments ++ [name] ++ ["index".toList], '/' ∉ part :=
      List.forall_mem_append.mpr ⟨hsegments, by decide⟩
    simp only [List.mem_cons, List.not_mem_nil, or_false] at hfile
    -- Both files name one route: the index stands for its directory.
    rcases hfile with rfl | rfl
    · have hscan := scan_pagesFile habove hpair hsegments ext text
      rw [if_neg hname] at hscan
      exact ⟨acceptsPages_pagesFile habove hpair, hscan⟩
    · have hscan := scan_pagesFile habove hpair hindex ext text
      rw [if_pos rfl] at hscan
      exact ⟨acceptsPages_pagesFile habove hpair, hscan⟩

/-- A file below a second `api`. -/
def itemFile : SourceFile := .ofPath "src/api/app/api/items/[id]/route.ts"

/-- Handlers for two methods, one of them twice. -/
def itemText : Text :=
  ("export const POST = save;\nexport async function GET() {}\n"
    ++ "export let POST;\n").toList

/-- A file and an `index` of one name, below a second `pages/api`. -/
def itemPages : List SourceFile :=
  [.ofPath "src/pages/pages/api/pages/api/[id].ts",
    .ofPath "src/pages/pages/api/pages/api/[id]/index.ts"]

theorem directory_routes_hold_items :
    (∃ found, Strategy.scan itemFile itemText .appDirectory = .ok found)
    ∧ (∃ found, Strategy.scan itemFile itemText .appDirectory = .ok found
      ∧ (found.map (·.method)).Nodup
      ∧ ∀ entry, entry ∈ found ↔ ∃ verb line, FirstDeclaredOn itemText verb line
        ∧ entry = ⟨verb, "/items/:id".toList, ⟨itemFile.path, line⟩⟩)
    ∧ ∀ file ∈ itemPages, Strategy.scan file [] .pagesDirectory
      = .ok [⟨anyMethod, "/pages/api/:id".toList, ⟨file.path, 1⟩⟩] := by
  obtain ⟨hreads, happ, hpages⟩ := directory_routes_hold
  refine ⟨?_, ?_, fun file hfile => ?_⟩
  · exact (hreads .appDirectory (by decide)).1 itemFile itemText (by decide)
  · exact happ itemFile itemText ["src".toList, "api".toList, "app".toList]
      ["items".toList, "[id]".toList] (by decide) (by decide)
  · have hpaths : itemPages
        = [pagesFile ["src".toList, "pages".toList]
          ["pages".toList, "api".toList] "[id]".toList
            ".ts".toList,
          pagesFile ["src".toList, "pages".toList]
            ["pages".toList, "api".toList, "[id]".toList]
            "index".toList ".ts".toList] := by
      decide
    rw [hpaths] at hfile
    exact (hpages ["src".toList, "pages".toList] ["pages".toList, "api".toList]
      "[id]".toList
      ".ts".toList [] (by decide) (by decide) (by decide) file hfile).2

example : Strategy.scan itemFile itemText .appDirectory
    = .ok [⟨"GET".toList, "/items/:id".toList, ⟨itemFile.path, 2⟩⟩,
      ⟨"POST".toList, "/items/:id".toList, ⟨itemFile.path, 1⟩⟩] := by
  rfl

end SourceAtlas.Route
