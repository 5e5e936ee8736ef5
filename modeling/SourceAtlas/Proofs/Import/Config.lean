/-
Which compiler configurations give aliases. The first one that has compiler
options decides, or that is nested too deep and fails. The base of its paths is
looked at only for a target that is used, and then it has to be a text.

Consumed by the theory of runs that end early.
-/
import SourceAtlas.Import.Config
import SourceAtlas.Proofs.Except

namespace SourceAtlas.Alias

variable {base paths : Json} {depth : Nat} {root : Node}

/-- A target that is used: a text, and for a key that ends in a star one that
ends in a star as well. -/
def IsUsed (wildcard : Bool) : Json → Prop
  | .string target => wildcard = true → ['*'].isSuffixOf target = true
  | _ => False

/-- A table of paths with a target that is used. -/
def UsesBase (paths : Json) : Prop :=
  ∃ entries key targets, paths = .object entries
    ∧ (key, Json.array targets) ∈ entries
    ∧ ∃ target ∈ targets, IsUsed (['*'].isSuffixOf key) target

/-- One target: the base is looked at if the target is used. -/
theorem exists_target?_eq_ok_iff {wildcard : Bool} {target : Json} :
    (∃ found, target? base wildcard target = .ok found)
      ↔ (∃ t, base = .string t) ∨ ¬ IsUsed wildcard target := by
  by_cases htext : ∃ text, target = .string text
  · obtain ⟨text, rfl⟩ := htext
    simp only [target?, IsUsed]
    by_cases hused : wildcard = true → ['*'].isSuffixOf text = true
    · rw [if_neg (by simpa using hused)]
      by_cases hbase : ∃ t, base = .string t
      · obtain ⟨t, rfl⟩ := hbase
        refine iff_of_true ?_ (.inl ⟨t, rfl⟩)
        simp only
        split
        · exact ⟨_, rfl⟩
        · exact ⟨_, rfl⟩
      · refine iff_of_false ?_ (not_or.mpr ⟨hbase, not_not_intro hused⟩)
        rintro ⟨found, h⟩
        split at h
        case h_1 t => exact hbase ⟨t, rfl⟩
        case h_2 => cases h
    · obtain ⟨hwildcard, hstar⟩ := Classical.not_imp.mp hused
      rw [Bool.not_eq_true] at hstar
      rw [if_pos (by rw [hwildcard, hstar]; rfl)]
      exact iff_of_true ⟨none, rfl⟩ (.inr hused)
  -- what is no text is passed over, whatever the base
  · refine iff_of_true ⟨none, ?_⟩ (.inr ?_)
    · unfold target?
      split
      case h_1 text => exact absurd ⟨text, rfl⟩ htext
      case h_2 => rfl
    · rw [IsUsed.eq_2 _ _ fun text h => htext ⟨text, h⟩]
      exact id

/-- One entry: the base is looked at if some target is used. -/
theorem exists_ofEntry_eq_ok_iff {key : Text} {value : Json} :
    (∃ found, ofEntry base key value = .ok found) ↔ (∃ t, base = .string t)
      ∨ ∀ targets, value = .array targets →
          ∀ target ∈ targets, ¬ IsUsed (['*'].isSuffixOf key) target := by
  by_cases harray : ∃ targets, value = .array targets
  · obtain ⟨targets, rfl⟩ := harray
    unfold ofEntry
    simp only
    rw [exists_bind_pure_eq_ok_iff, exists_mapM_eq_ok_iff]
    by_cases hbase : ∃ t, base = .string t
    · simp [exists_target?_eq_ok_iff, hbase]
    · simp [exists_target?_eq_ok_iff, hbase]
  · have hnot : ∀ targets, value ≠ .array targets :=
        fun targets h => harray ⟨targets, h⟩
    rw [ofEntry.eq_2 _ _ _ hnot]
    exact iff_of_true ⟨[], rfl⟩ (.inr fun targets h => absurd h (hnot targets))

/-- A table of paths: the base is looked at if some entry uses it. -/
theorem exists_ofPaths_eq_ok_iff :
    (∃ found, ofPaths base paths = .ok found)
      ↔ (∃ t, base = .string t) ∨ ¬ UsesBase paths := by
  by_cases hobject : ∃ entries, paths = .object entries
  · obtain ⟨entries, rfl⟩ := hobject
    unfold ofPaths
    simp only
    rw [exists_bind_pure_eq_ok_iff, exists_mapM_eq_ok_iff]
    simp only [exists_ofEntry_eq_ok_iff, UsesBase, Json.object.injEq]
    by_cases hbase : ∃ t, base = .string t
    · simp [hbase]
    · simp only [hbase, false_or]
      constructor
      · rintro h ⟨_, key, targets, rfl, hentry, target, htarget, hused⟩
        exact h (key, .array targets) hentry targets rfl target htarget hused
      · rintro h ⟨key, value⟩ hentry targets rfl target htarget hused
        exact h ⟨entries, key, targets, rfl, hentry, target, htarget, hused⟩
  · have hnot : ∀ entries, paths ≠ .object entries :=
        fun entries h => hobject ⟨entries, h⟩
    rw [ofPaths.eq_2 _ _ hnot]
    refine iff_of_true ⟨[], rfl⟩ (.inr ?_)
    rintro ⟨entries, key, targets, h, -⟩
    exact hnot entries h

end SourceAtlas.Alias
