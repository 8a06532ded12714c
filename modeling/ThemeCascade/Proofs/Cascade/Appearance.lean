import ThemeCascade.Configuration.Loading
import ThemeCascade.Proofs.Cascade.Locality

/-! # What is seen of a configuration

A theme is only ever asked for the color of a role, so that literals which stand for the same color cannot
be told apart. Configurations of the same appearance style every element alike. -/

namespace ThemeCascade

/-- Of each theme its color for each role, and all else as it is configured. -/
structure Appearance where
  colors : NameMap (Role → Text)
  components : NameMap Text
  rules : List Text
  darkMode : NameMap Text

theorem ThemePart.render_congr {theme other : Theme} (h : other.color = theme.color) :
    ThemePart.render other = ThemePart.render theme := by
  funext part
  cases part with
  | fixed token => rfl
  | shaded utility role => rw [render, render, h]

namespace Configuration

def appearance (config : Configuration) : Appearance where
  colors := config.themes.map fun _ => Theme.color
  components := config.components
  rules := config.rules
  darkMode := config.darkMode

variable {config other : Configuration} (h : other.appearance = config.appearance)
include h

theorem components_eq_of_appearance : other.components = config.components :=
  congrArg Appearance.components h

theorem rules_eq_of_appearance : other.rules = config.rules := congrArg Appearance.rules h

theorem darkMode_eq_of_appearance : other.darkMode = config.darkMode := congrArg Appearance.darkMode h

theorem color_eq_of_appearance (name : Text) :
    (other.themes[name]?).map Theme.color = (config.themes[name]?).map Theme.color := by
  have hcolors : other.appearance.colors[name]? = config.appearance.colors[name]? := by rw [h]
  simpa [appearance] using hcolors

theorem contains_eq_of_appearance (name : Text) :
    other.themes.contains name = config.themes.contains name := by
  have hcolors : other.appearance.colors.contains name = config.appearance.colors.contains name := by rw [h]
  simpa [appearance] using hcolors

/-! ## Styling -/

theorem rendered_eq_of_appearance (tag : Tag) (paint : Paint) :
    other.rendered tag paint = config.rendered tag paint := by
  cases paint with
  | custom value => rfl
  | theme name =>
      have hcolor := color_eq_of_appearance h name
      cases hother : other.themes[name]? with
      | none =>
          rw [hother] at hcolor
          have hnone := Option.map_eq_none_iff.mp hcolor.symm
          simp only [rendered, hother, hnone]
      | some theme' =>
          rw [hother] at hcolor
          obtain ⟨theme, htheme, heq⟩ := Option.map_eq_some_iff.mp hcolor.symm
          simp only [rendered, hother, htheme, ThemePart.render_congr heq.symm]

theorem tokens_eq_of_appearance : other.tokens = config.tokens := by
  funext tagName paintText variant
  unfold tokens tagTokens
  simp only [rendered_eq_of_appearance h]

theorem cascaded_eq_of_appearance (element : Element) : other.cascaded element = config.cascaded element := by
  have hrules := rules_eq_of_appearance h
  have htokens := tokens_eq_of_appearance h
  have hcomponent : other.components[element.component]? = config.components[element.component]? := by
    rw [components_eq_of_appearance h]
  have hdark : other.darkMode[element.component]? = config.darkMode[element.component]? := by
    rw [darkMode_eq_of_appearance h]
  exact cascaded_congr (congrArg List.length hrules) (ruleTokens_congr hrules fun _ _ _ => by rw [htokens])
    (entryTokens_congr hcomponent (fun _ _ _ => by rw [htokens]) .base)
    (entryTokens_congr hdark (fun _ _ _ => by rw [htokens]) .dark)

theorem warnings_eq_of_appearance : other.warnings = config.warnings := by
  have hunknown : other.unknownTheme? = config.unknownTheme? := by
    funext paintText
    unfold unknownTheme?
    simp only [contains_eq_of_appearance h]
  simp only [warnings, unknownThemes, hunknown, components_eq_of_appearance h, darkMode_eq_of_appearance h]

end Configuration

namespace Cascade

variable {config other : Configuration} (h : other.appearance = config.appearance)
include h

theorem resolutionAfter_eq_of_appearance (earlier before : List Element) (element : Element) :
    resolutionAfter other earlier element = resolutionAfter config before element :=
  resolutionAfter_congr (Configuration.cascaded_eq_of_appearance h element) earlier before

/-- With all that is logged. -/
theorem resolveOnce_eq_of_appearance : resolveOnce other = resolveOnce config := by
  funext element
  have hfresh : fresh other element = fresh config element := by
    funext paintText variant
    simp only [fresh, Configuration.tokens_eq_of_appearance h]
  simp only [resolveOnce, resolveWith, ofConfiguration, skipped, hfresh,
    Configuration.components_eq_of_appearance h, Configuration.rules_eq_of_appearance h,
    Configuration.darkMode_eq_of_appearance h]

end Cascade

end ThemeCascade
