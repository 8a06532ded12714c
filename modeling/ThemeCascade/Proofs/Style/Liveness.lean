import ThemeCascade.Style.Tokens

/-! # Paints that color

A paint is live if it is a bracketed value or the name of a theme that is configured. Every template has a
token, so a paint gives an element tokens exactly if it is live and the element's tag is recognised. -/

namespace ThemeCascade

namespace Tag

theorem themeTemplate_ne_nil (tag : Tag) : tag.themeTemplate ≠ [] := by
  cases tag <;> decide

theorem customTemplate_ne_nil (tag : Tag) : tag.customTemplate ≠ [] := by
  cases tag <;> decide

end Tag

namespace Configuration

/-- A value in brackets that is not empty, or else the name of a theme that is configured. -/
inductive IsLive (config : Configuration) : Text → Prop where
  | custom {value : Text} : value ≠ [] → IsLive config ('[' :: (value ++ [']']))
  | theme {name : Text} {theme : Theme} : (∀ value, value ≠ [] → name ≠ '[' :: (value ++ [']'])) →
      config.themes[name]? = some theme → IsLive config name

variable {config : Configuration} {tagName paintText : Text} {variant : Variant}

theorem rendered_ne_nil_iff (tag : Tag) :
    config.rendered tag (.ofText paintText) ≠ [] ↔ config.IsLive paintText := by
  cases hpaint : Paint.ofText paintText with
  | custom value =>
      obtain ⟨hvalue, rfl⟩ := Paint.ofText_eq_custom_iff.mp hpaint
      have hrendered : config.rendered tag (.custom value) ≠ [] := by
        simpa [rendered] using tag.customTemplate_ne_nil
      exact iff_of_true hrendered (.custom hvalue)
  | theme name =>
      obtain ⟨rfl, hname⟩ := Paint.ofText_eq_theme_iff.mp hpaint
      cases htheme : config.themes[paintText]? with
      | some theme =>
          have hrendered : config.rendered tag (.theme paintText) ≠ [] := by
            simpa [rendered, htheme] using tag.themeTemplate_ne_nil
          exact iff_of_true hrendered (.theme hname htheme)
      | none =>
          have hdead : ¬ config.IsLive paintText := by
            intro hlive
            cases hlive with
            | custom hvalue => exact hname _ hvalue rfl
            | theme _ hsome => rw [htheme] at hsome; cases hsome
          simp [rendered, htheme, hdead]

/-- Whether a paint gives an element tokens does not depend on the variant. -/
theorem tokens_ne_nil_iff :
    config.tokens tagName paintText variant ≠ [] ↔
      (∃ tag : Tag, tagName = tag.name) ∧ config.IsLive paintText := by
  cases htag : Tag.ofName? tagName with
  | none =>
      have hname : ¬ ∃ tag : Tag, tagName = tag.name := not_exists.mpr (Tag.ofName?_eq_none_iff.mp htag)
      simp [tokens, htag, hname]
  | some tag =>
      have hname : ∃ tag : Tag, tagName = tag.name := ⟨tag, Tag.ofName?_eq_some_iff.mp htag⟩
      rw [and_iff_right hname, ← rendered_ne_nil_iff tag]
      simp [tokens, htag, tagTokens]

end Configuration

end ThemeCascade
