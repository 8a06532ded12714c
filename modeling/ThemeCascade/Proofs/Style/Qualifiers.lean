import ThemeCascade.Proofs.Style.ClassTokens

/-! # The qualifier of dark mode

Every token of the dark variant begins with the qualifier, and no token of the base variant does, whatever
its paint holds: a template says how its tokens begin. -/

namespace ThemeCascade

/-- The token takes effect in dark mode only. -/
def IsQualified (token : Text) : Prop := "dark:".toList <+: token

instance : DecidablePred IsQualified := fun token =>
  inferInstanceAs (Decidable ("dark:".toList <+: token))

theorem isQualified_append (token : Text) : IsQualified ("dark:".toList ++ token) :=
  List.prefix_append ..

theorem not_isQualified_of_head? {token : Text} (h : token.head? ≠ some 'd') : ¬ IsQualified token := by
  rintro ⟨rest, rfl⟩
  exact h rfl

/-! ## Templates -/

namespace ThemePart

/-- The token stands there without the qualifier, or the part that the template gives begins otherwise. -/
def IsUnqualified : ThemePart → Prop
  | fixed token => ¬ IsQualified token.toList
  | shaded utility _ => (utility.toList ++ ['-']).head? ≠ some 'd'

instance : DecidablePred IsUnqualified
  | fixed token => inferInstanceAs (Decidable (¬ IsQualified token.toList))
  | shaded utility _ => inferInstanceAs (Decidable ((utility.toList ++ ['-']).head? ≠ some 'd'))

theorem IsUnqualified.not_isQualified_render {part : ThemePart} (h : part.IsUnqualified) (theme : Theme) :
    ¬ IsQualified (part.render theme) := by
  cases part with
  | fixed token => exact h
  | shaded utility role =>
      apply not_isQualified_of_head?
      have hhead : (render theme (shaded utility role)).head? = (utility.toList ++ ['-']).head? := by
        rw [render, List.head?_append, List.head?_append]
        rfl
      rw [hhead]
      exact h

end ThemePart

namespace CustomPart

/-- A declaration begins with its modifier, or else with its bracket. -/
def IsUnqualified : CustomPart → Prop
  | fixed token => ¬ IsQualified token.toList
  | declared modifier _ _ => (modifierText modifier ++ ['[']).head? ≠ some 'd'

instance : DecidablePred IsUnqualified
  | fixed token => inferInstanceAs (Decidable (¬ IsQualified token.toList))
  | declared modifier _ _ => inferInstanceAs (Decidable ((modifierText modifier ++ ['[']).head? ≠ some 'd'))

theorem IsUnqualified.not_isQualified_render {part : CustomPart} (h : part.IsUnqualified) (value : Text) :
    ¬ IsQualified (part.render value) := by
  cases part with
  | fixed token => exact h
  | declared modifier property opacity =>
      apply not_isQualified_of_head?
      have hhead : (render value (declared modifier property opacity)).head? =
          (modifierText modifier ++ ['[']).head? := by
        simp [render, List.head?_append]
      rw [hhead]
      exact h

end CustomPart

namespace Tag

theorem isUnqualified_of_mem_themeTemplate {tag : Tag} {part : ThemePart}
    (h : part ∈ tag.themeTemplate) : part.IsUnqualified := by
  have hall : ∀ part ∈ tag.themeTemplate, part.IsUnqualified := by cases tag <;> decide
  exact hall part h

theorem isUnqualified_of_mem_customTemplate {tag : Tag} {part : CustomPart}
    (h : part ∈ tag.customTemplate) : part.IsUnqualified := by
  have hall : ∀ part ∈ tag.customTemplate, part.IsUnqualified := by cases tag <;> decide
  exact hall part h

end Tag

/-! ## Tokens -/

namespace Configuration

variable {config : Configuration} {tag : Tag} {paint : Paint} {token tagName paintText : Text}

theorem RenderDerivation.not_isQualified (h : RenderDerivation config tag paint token) :
    ¬ IsQualified token := by
  cases h with
  | theme _ hpart => exact (Tag.isUnqualified_of_mem_themeTemplate hpart).not_isQualified_render _
  | custom value hpart =>
      exact (Tag.isUnqualified_of_mem_customTemplate hpart).not_isQualified_render value

theorem not_isQualified_of_mem_tokens (h : token ∈ config.tokens tagName paintText .base) :
    ¬ IsQualified token := by
  obtain ⟨tag, base, -, hbase, rfl⟩ := mem_tokens_iff.mp h
  exact hbase.not_isQualified

/-- The dark variant is the base one, token by token, behind the qualifier. -/
theorem tokens_dark (config : Configuration) (tagName paintText : Text) :
    config.tokens tagName paintText .dark =
      (config.tokens tagName paintText .base).map ("dark:".toList ++ ·) := by
  unfold tokens
  cases Tag.ofName? tagName with
  | none => rfl
  | some tag =>
      simp only [tagTokens, List.map_map]
      rfl

end Configuration

end ThemeCascade
