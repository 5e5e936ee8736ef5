/-
Paths as the file system reads them. Of the components of a path the silent
ones are passed over, and what is left are names and double dots. Joined names
are a relative path of which nothing is passed over (`fromTop_join_names`).

Consumed by the theories of the artifact store and of the snapshot.
-/
import SourceAtlas.Path
import SourceAtlas.Proofs.Path.Normal

namespace SourceAtlas.PlainPath

variable {names : List Text}

/-- A component that names nothing. -/
def IsSilent (part : Text) : Prop := part = [] ∨ part = ['.']

instance (part : Text) : Decidable (IsSilent part) :=
  inferInstanceAs (Decidable (_ ∨ _))

/-- Parts are the components that are not silent. -/
theorem parts_ofText (path : Text) :
    (ofText path).parts = (Path.components path).filter fun part =>
      ¬ IsSilent part := by
  refine List.filter_congr fun part _ => ?_
  rw [Bool.eq_iff_iff]
  simp [IsSilent, not_or]

/-- A path is absolute if a slash stands in front. -/
theorem isAbsolute_ofText (path : Text) :
    (ofText path).isAbsolute = true ↔ path.head? = some '/' := by
  unfold isAbsolute ofText
  rw [bne_iff_ne, Ne, Path.leadingSlashes_eq_zero_iff, Classical.not_not]

theorem head?_join_names (h : ∀ name ∈ names, Path.IsName name) :
    (Text.join ['/'] names).head? ≠ some '/' := by
  cases names with
  | nil => exact nofun
  | cons first rest =>
      obtain ⟨c, more, hjoin, hc⟩ :=
        Path.exists_join_cons (List.cons_ne_nil first rest) fun name hname =>
          ⟨(h name hname).ne_nil, (h name hname).slash_not_mem⟩
      rw [hjoin]
      exact fun hslash => hc (Option.some.inj hslash)

theorem filter_names (h : ∀ name ∈ names, Path.IsName name) :
    names.filter (fun part => ¬ IsSilent part) = names := by
  refine List.filter_eq_self.mpr fun name hname => decide_eq_true ?_
  rintro (hsilent | hsilent)
  · exact (h name hname).ne_nil hsilent
  · exact (h name hname).2.1 hsilent

/-- Joined names lead from where one stands through these names. -/
theorem fromTop_join_names (hne : names ≠ [])
    (h : ∀ name ∈ names, Path.IsName name) (here : List Text) :
    (ofText (Text.join ['/'] names)).fromTop here = here ++ names := by
  have hrelative : ¬ (ofText (Text.join ['/'] names)).isAbsolute = true :=
    mt (isAbsolute_ofText _).mp (head?_join_names h)
  rw [fromTop, if_neg hrelative, parts_ofText, Path.components_join_names hne h,
    filter_names h]

end SourceAtlas.PlainPath
