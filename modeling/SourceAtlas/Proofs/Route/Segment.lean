/-
Routes are put together segment by segment. A segment contributes nothing
exactly if it is empty, a group or a slot (`urlSegment_eq_none_iff`), and what
any other one contributes is not empty and holds no slash that the segment
does not hold: a bracketed name is replaced by a colon and the name, which
leaves something behind, and the name was written in the segment
(`ne_nil_of_urlSegment`, `mem_of_urlSegment`). So the slashes of a route are
those between its pieces, and two routes in a row are the route of both.
-/
import SourceAtlas.Route
import SourceAtlas.Proofs.Pattern.Captures
import SourceAtlas.Proofs.Text.Split

namespace SourceAtlas.Route

open Pattern

variable {segment piece : Text} {segments more : List Text}

-- ========================================================== one segment

/-- A segment that is no part of a route: nothing, a group or a slot. -/
inductive Dropped : Text → Prop where
  | empty : Dropped []
  | group (name : Text) : Dropped ('(' :: name ++ [')'])
  | slot (name : Text) : Dropped ('@' :: name)

/-- Dropped segments are those that contribute nothing. -/
theorem urlSegment_eq_none_iff :
    urlSegment segment = none ↔ Dropped segment := by
  constructor
  · intro h
    rw [urlSegment] at h
    split at h
    case isTrue hempty =>
      rw [List.isEmpty_iff.mp hempty]
      exact .empty
    case isFalse =>
    split at h
    case isTrue hgroup =>
      obtain ⟨hopen, hclose⟩ := Bool.and_eq_true_iff.mp hgroup
      obtain ⟨rest, rfl⟩ := List.isPrefixOf_iff_prefix.mp hopen
      rcases List.suffix_cons_iff.mp
        (List.isSuffixOf_iff_suffix.mp hclose) with heq | hclose
      · cases heq
      · obtain ⟨name, rfl⟩ := hclose
        exact .group name
    case isFalse =>
    split at h
    case isTrue hslot =>
      obtain ⟨name, rfl⟩ := List.isPrefixOf_iff_prefix.mp hslot
      exact .slot name
    case isFalse =>
    split at h <;> cases h
  · intro h
    cases h with
    | empty => rfl
    | group name =>
        have hclose : [')'].isSuffixOf ('(' :: name ++ [')']) = true :=
          List.isSuffixOf_iff_suffix.mpr
            (List.suffix_append ('(' :: name) [')'])
        rw [urlSegment]
        exact (if_neg Bool.false_ne_true).trans
          (if_pos (Bool.and_eq_true_iff.mpr ⟨rfl, hclose⟩))
    | slot name => rfl

/-- What a segment contributes: a colon, the name and a star, or the segment
with its parameters put into URL syntax. -/
theorem urlSegment_cases (h : urlSegment segment = some piece) :
    (∃ m, catchAll.matchWhole segment = some m
      ∧ piece = ':' :: m.get .name ++ ['*'])
      ∨ (segment ≠ [] ∧ piece
        = parameter.replaceAll (fun m => ':' :: m.get .name) segment) := by
  rw [urlSegment] at h
  split at h
  case isTrue => cases h
  case isFalse hempty =>
  split at h
  case isTrue => cases h
  case isFalse =>
  split at h
  case isTrue => cases h
  case isFalse =>
  split at h
  case h_1 m hm =>
    injection h with h
    exact .inl ⟨m, hm, h.symm⟩
  case h_2 =>
    injection h with h
    exact .inr ⟨fun hnil => hempty (List.isEmpty_iff.mpr hnil), h.symm⟩

/-- No piece of a route is empty. -/
theorem ne_nil_of_urlSegment (h : urlSegment segment = some piece) :
    piece ≠ [] := by
  rcases urlSegment_cases h with ⟨m, -, rfl⟩ | ⟨hne, rfl⟩
  · exact List.cons_ne_nil ':' _
  · exact replaceAll_ne_nil (fun m => List.cons_ne_nil ':' (m.get .name)) hne

/-- Only a colon and a star are brought in. -/
theorem mem_of_urlSegment (h : urlSegment segment = some piece) {x : Char}
    (hx : x ∈ piece) : x ∈ segment ∨ x = ':' ∨ x = '*' := by
  rcases urlSegment_cases h with ⟨m, hm, rfl⟩ | ⟨-, rfl⟩
  · rcases List.mem_append.mp hx with hx | hx
    · rcases List.mem_cons.mp hx with rfl | hx
      · exact .inr (.inl rfl)
      · exact .inl (((within_of_matchWhole hm).isInfix_get .name).subset hx)
    · exact .inr (.inr (List.mem_singleton.mp hx))
  · rcases mem_replaceAll hx with hx | ⟨m, hm, hx⟩
    · exact .inl hx
    · rcases List.mem_cons.mp hx with rfl | hx
      · exact .inr (.inl rfl)
      · exact .inl ((hm.isInfix_get .name).subset hx)

-- ============================================================== routes

/-- The pieces of a route. -/
def pieces (segments : List Text) : List Text := segments.filterMap urlSegment

theorem ne_nil_of_mem_pieces (h : piece ∈ pieces segments) : piece ≠ [] := by
  obtain ⟨segment, -, hpiece⟩ := List.mem_filterMap.mp h
  exact ne_nil_of_urlSegment hpiece

/-- A route is its pieces with a slash before each. -/
theorem build_eq (segments : List Text) :
    build segments = '/' :: Text.join ['/'] (pieces segments) := by
  have hkeep : (pieces segments).filter (fun s => !s.isEmpty)
      = pieces segments := by
    refine List.filter_eq_self.mpr fun piece hpiece => ?_
    simpa using ne_nil_of_mem_pieces hpiece
  exact congrArg (fun s => '/' :: Text.join ['/'] s) hkeep

/-- A route of dropped segments only is a slash. -/
theorem build_eq_slash_iff : build segments = ['/'] ↔ pieces segments = [] := by
  rw [build_eq, ← Text.join_eq_nil_iff fun _ => ne_nil_of_mem_pieces]
  exact ⟨fun h => (List.cons_eq_cons.mp h).2, fun h => by rw [h]⟩

/-- The pieces of a route are those of its parts. -/
theorem pieces_append (segments more : List Text) :
    pieces (segments ++ more) = pieces segments ++ pieces more :=
  List.filterMap_append

theorem pieces_of_dropped (h : ∀ segment ∈ segments, Dropped segment) :
    pieces segments = [] :=
  List.filterMap_eq_nil_iff.mpr fun segment hsegment =>
    urlSegment_eq_none_iff.mpr (h segment hsegment)

/-- Routes compose, apart from the empty one. -/
theorem build_append (segments more : List Text) : build (segments ++ more)
    = if build segments = ['/'] then build more
      else if build more = ['/'] then build segments
      else build segments ++ build more := by
  split
  case isTrue h =>
    rw [build_eq, pieces_append, build_eq_slash_iff.mp h,
      List.nil_append, ← build_eq]
  case isFalse hfirst =>
  split
  case isTrue h =>
    rw [build_eq, pieces_append, build_eq_slash_iff.mp h,
      List.append_nil, ← build_eq]
  case isFalse hsecond =>
    rw [build_eq_slash_iff] at hfirst hsecond
    rw [build_eq, pieces_append, Text.join_append hfirst hsecond,
      build_eq segments, build_eq more]
    simp only [List.append_assoc, List.cons_append, List.nil_append]

/-- Dropped segments leave no trace, wherever they stand. -/
theorem build_append_dropped {dropped : List Text}
    (h : ∀ segment ∈ dropped, Dropped segment) :
    build (segments ++ dropped ++ more) = build (segments ++ more) := by
  rw [build_eq, build_eq, pieces_append, pieces_append, pieces_of_dropped h,
    List.append_nil, ← pieces_append]

/-- The pieces of a route are what stands between its slashes. -/
theorem split_join_pieces (hslash : ∀ segment ∈ segments, '/' ∉ segment)
    (hne : ∃ segment ∈ segments, ¬ Dropped segment) :
    Text.split '/' (Text.join ['/'] (pieces segments)) = pieces segments := by
  refine Text.split_join (fun hnil => ?_) fun piece hpiece hmem => ?_
  · obtain ⟨segment, hsegment, hkept⟩ := hne
    exact hkept (urlSegment_eq_none_iff.mp
      (List.filterMap_eq_nil_iff.mp hnil segment hsegment))
  · obtain ⟨segment, hsegment, hpiece⟩ := List.mem_filterMap.mp hpiece
    rcases mem_of_urlSegment hpiece hmem with hmem | heq | heq
    · exact hslash segment hsegment hmem
    · exact absurd heq (by decide)
    · exact absurd heq (by decide)

/-- The route of two lists of segments is the one route behind the other, and
a route without pieces adds nothing to it. Empty segments, groups and slots
are the segments that are dropped, and they leave no trace wherever they
stand. Where the segments hold no slash and some are kept, the route is a
slash and what the kept segments become, which is never empty, with slashes
between them. -/
theorem routes_compose :
    (∀ segments more, build (segments ++ more)
        = if build segments = ['/'] then build more
          else if build more = ['/'] then build segments
          else build segments ++ build more)
      ∧ (∀ segment, urlSegment segment = none ↔ Dropped segment)
      ∧ (∀ segments dropped more, (∀ segment ∈ dropped, Dropped segment) →
          build (segments ++ dropped ++ more) = build (segments ++ more))
      ∧ ∀ segments, (∀ segment ∈ segments, '/' ∉ segment) →
          (∃ segment ∈ segments, ¬ Dropped segment) →
          ∃ route, build segments = '/' :: route
            ∧ Text.split '/' route = segments.filterMap urlSegment
            ∧ ∀ piece ∈ Text.split '/' route, piece ≠ [] := by
  refine ⟨build_append,
    fun _ => urlSegment_eq_none_iff,
      fun _ _ _ => build_append_dropped, fun segments hslash hkept => ?_⟩
  have hsplit := split_join_pieces hslash hkept
  refine ⟨Text.join ['/'] (pieces segments), build_eq segments, hsplit,
    fun piece hpiece => ?_⟩
  rw [hsplit] at hpiece
  exact ne_nil_of_mem_pieces hpiece

/-- A directory with a group, a slot and a parameter below it. -/
def shopSegments : List Text :=
  ["shop".toList] ++ ["(admin)".toList, "@modal".toList] ++ ["[id]".toList]

theorem routes_compose_shop :
    build shopSegments = build ["shop".toList, "[id]".toList]
      ∧ ∃ route, build shopSegments = '/' :: route
        ∧ Text.split '/' route = ["shop".toList, ":id".toList] := by
  have hslash : ∀ segment ∈ shopSegments, '/' ∉ segment := by decide
  have hkept : ¬ Dropped "shop".toList := nofun
  have hdropped :
      ∀ segment ∈ ["(admin)".toList, "@modal".toList], Dropped segment := by
    refine List.forall_mem_cons.mpr ⟨.group "admin".toList, ?_⟩
    exact List.forall_mem_singleton.mpr (.slot "modal".toList)
  obtain ⟨-, -, hleaves, hpieces⟩ := routes_compose
  obtain ⟨route, hroute, hsplit, -⟩ :=
    hpieces shopSegments hslash ⟨"shop".toList, List.mem_cons_self, hkept⟩
  refine ⟨hleaves _ _ _ hdropped, route, hroute, hsplit.trans ?_⟩
  decide +kernel

end SourceAtlas.Route
