/-
When marked text can be shown. A word that is written like the name of a
color is its own normal form, whether or not there is such a color: the tag
that closes it finds the tag that opened it. So a text with one such pair of
tags is shown (`exists_render_of_marked`), without looking into the table of
colors.

Consumed by the theory of the command line.
-/
import SourceAtlas.Console.Markup

namespace SourceAtlas.Console

/-- A word that is written like the name of a color. -/
structure ColorWord (word : Text) : Prop where
  words : Text.words word = [word]
  smalls : Text.smalls word = word
  trim : Text.trim word = word
  notAttribute : attribute? word = none
  notKeyword : word ∉ ["none".toList, "on".toList, "not".toList, "link".toList]
  noComponents : componentColor.matchWhole word = none
  noSlash : '/' ∉ word

variable {word : Text}

namespace ColorWord

theorem ne_nil (h : ColorWord word) : word ≠ [] := by
  rintro rfl
  cases h.words

/-- There is such a color, or the word is unknown. -/
theorem color_eq (h : ColorWord word) :
    color word = .ok word ∨ color word = .error .unknown := by
  unfold color
  simp only [h.smalls, h.trim, h.noComponents]
  split
  · exact .inl rfl
  · split
    · exact .inl rfl
    · split
      · split
        · exact .inl rfl
        · exact .inr rfl
      · exact .inr rfl

/-- A style of one color word is that color. -/
theorem read_eq (h : ColorWord word) :
    Style.read word = color word >>= fun found =>
      .ok { color := some found } := by
  have hkeyword := h.notKeyword
  simp only [List.mem_cons, List.not_mem_nil, or_false, not_or] at hkeyword
  obtain ⟨hnone, hon, hnot, hlink⟩ := hkeyword
  unfold Style.read
  rw [h.trim, if_neg hnone, h.words, Style.addWords]
  simp only [h.smalls, if_neg hon, if_neg hnot, if_neg hlink, h.notAttribute,
    Style.addWords]

/-- The word is its own normal form. -/
theorem normalName_eq (h : ColorWord word) : normalName word = .ok word := by
  unfold normalName Style.normalize
  rw [h.read_eq]
  rcases h.color_eq with hcolor | hcolor
  · rw [hcolor]
    rfl
  · rw [hcolor]
    simp only [bind, Except.bind, h.trim, h.smalls]
    rfl

/-- The opening tag. -/
theorem step_open (h : ColorWord word) (p : Progress) :
    p.step (.tag ⟨word, none⟩)
    = .ok { p with opened := ⟨word, none⟩ :: p.opened } := by
  rw [Progress.step]
  · rw [h.normalName_eq]
    rfl
  · rintro name rfl
    exact h.noSlash List.mem_cons_self

/-- The closing tag. -/
theorem step_close (h : ColorWord word) (hat : ¬ ['@'] <+: word) {p : Progress}
    (hp : p.opened = [⟨word, none⟩]) : p.step (.tag ⟨'/' :: word, none⟩)
      = .ok { p with opened := [], definitions := word :: p.definitions } := by
  have hclose : closeTag word [⟨word, none⟩] = .ok (⟨word, none⟩, []) := by
    unfold closeTag
    rw [if_neg (by simpa using h.ne_nil), h.normalName_eq]
    simp [bind, Except.bind, pure, Except.pure]
  rw [Progress.step, h.trim, hp, hclose]
  simp only [bind, Except.bind]
  rw [if_neg (by simpa using hat)]
  rfl

end ColorWord

/-- A text with one word for a color as its only tag, opened and closed, is
shown. -/
theorem exists_render_of_marked (h : ColorWord word) (hat : ¬ ['@'] <+: word)
    {t : Text} {before slashes marked between after : Text}
    (ht : pieces t
      = [.plain before, .plain slashes, .tag ⟨word, none⟩, .plain marked,
        .plain between, .tag ⟨'/' :: word, none⟩, .plain after]) :
    ∃ lines, render t = .ok lines := by
  have hcolors : [word].forM checkColors = .ok () := by
    show (checkColors word >>= fun _ => .ok ()) = _
    rw [checkColors, h.normalName_eq]
    rfl
  unfold render plain
  rw [ht]
  simp only [List.foldlM_cons, h.step_open, Progress.step.eq_1, bind,
    Except.bind]
  rw [h.step_close hat rfl]
  simp only [List.foldlM_nil, pure, Except.pure, List.map_nil,
    List.append_nil, hcolors]
  exact ⟨_, rfl⟩

end SourceAtlas.Console
