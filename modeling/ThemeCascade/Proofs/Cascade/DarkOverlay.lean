import ThemeCascade.Proofs.Cascade.Locality
import ThemeCascade.Proofs.Style.Qualifiers

/-! # The overlay of dark mode

Giving a component a dark paint adds tokens at the end and changes none. The added tokens are told from
the others by their qualifier. -/

namespace ThemeCascade

namespace Configuration

variable {config : Configuration} {element : Element} {component paintText : Text}

/-- The tokens of rules and of the component's paint. -/
def lightTokens (config : Configuration) (element : Element) : List Text :=
  config.ruleIndices.flatMap (config.ruleTokens element) ++
    if config.isUnruled element then config.componentTokens element else []

theorem cascaded_tokens (config : Configuration) (element : Element) :
    (config.cascaded element).tokens = config.lightTokens element ++ config.darkTokens element := rfl

theorem not_isQualified_of_mem_lightTokens {token : Text} (h : token ∈ config.lightTokens element) :
    ¬ IsQualified token := by
  simp only [lightTokens, List.mem_append, List.mem_flatMap, List.mem_ite_nil_right] at h
  rcases h with ⟨index, -, hrule⟩ | ⟨-, hcomponent⟩
  · obtain ⟨rule, -, -, htoken⟩ := exists_rule_of_mem_ruleTokens hrule
    exact not_isQualified_of_mem_tokens htoken
  · obtain ⟨paintText, -, htoken⟩ := exists_entry_of_mem_entryTokens hcomponent
    exact not_isQualified_of_mem_tokens htoken

theorem isQualified_of_mem_darkTokens {token : Text} (h : token ∈ config.darkTokens element) :
    IsQualified token := by
  obtain ⟨paintText, -, htoken⟩ := exists_entry_of_mem_entryTokens h
  rw [tokens_dark] at htoken
  obtain ⟨base, -, rfl⟩ := List.mem_map.mp htoken
  exact isQualified_append base

/-- The qualifier marks the tokens of dark mode and no others. -/
theorem filter_isQualified_cascaded (config : Configuration) (element : Element) :
    (config.cascaded element).tokens.filter (IsQualified ·) = config.darkTokens element := by
  have hlight : (config.lightTokens element).filter (IsQualified ·) = [] := by
    rw [List.filter_eq_nil_iff]
    intro token htoken
    simpa using not_isQualified_of_mem_lightTokens htoken
  have hdark : (config.darkTokens element).filter (IsQualified ·) = config.darkTokens element := by
    rw [List.filter_eq_self]
    intro token htoken
    simpa using isQualified_of_mem_darkTokens htoken
  rw [cascaded_tokens, List.filter_append, hlight, hdark, List.nil_append]

/-! ## A configuration with one more dark paint -/

theorem tokens_withDarkMode (config : Configuration) (component paintText : Text) :
    (config.withDarkMode component paintText).tokens = config.tokens := tokens_congr_of_themes rfl

theorem ruleTokens_withDarkMode :
    (config.withDarkMode component paintText).ruleTokens element = config.ruleTokens element := by
  apply ruleTokens_congr rfl
  intro rule _ _
  rw [tokens_withDarkMode]

theorem componentTokens_withDarkMode :
    (config.withDarkMode component paintText).componentTokens element = config.componentTokens element := by
  apply entryTokens_congr rfl
  intro entry _ variant
  rw [tokens_withDarkMode]

theorem lightTokens_withDarkMode :
    (config.withDarkMode component paintText).lightTokens element = config.lightTokens element := by
  unfold lightTokens isUnruled
  rw [ruleTokens_withDarkMode, componentTokens_withDarkMode]
  rfl

theorem darkTokens_withDarkMode (h : element.component = component) :
    (config.withDarkMode component paintText).darkTokens element =
      (config.tokens element.tag paintText .base).map ("dark:".toList ++ ·) := by
  rw [← tokens_dark, ← tokens_withDarkMode config component paintText]
  apply entryTokens_of_some
  rw [h]
  exact Std.ExtTreeMap.getElem?_insert_self

theorem darkTokens_withDarkMode_of_ne (h : element.component ≠ component) :
    (config.withDarkMode component paintText).darkTokens element = config.darkTokens element := by
  apply entryTokens_congr
  · exact NameMap.getElem?_insert_of_ne config.darkMode paintText h
  · intro entry _ variant
    rw [tokens_withDarkMode]

theorem darkTokens_of_none (h : config.darkMode[element.component]? = none) :
    config.darkTokens element = [] := entryTokens_of_none h

theorem cascaded_withDarkMode_of_ne (h : element.component ≠ component) :
    (config.withDarkMode component paintText).cascaded element = config.cascaded element :=
  cascaded_congr rfl ruleTokens_withDarkMode componentTokens_withDarkMode
    (darkTokens_withDarkMode_of_ne h)

end Configuration

open ThemeCascade.Configuration

namespace Cascade

/-- What a dark paint for one component changes: elements of the component are given its tokens behind
the qualifier, after all others and told from them by it. Other elements are given what they were given. -/
structure OverlaySpec (config : Configuration) (component paintText : Text) : Prop where
  tokens_eq : ∀ earlier before element, element.component = component →
    (resolutionAfter (config.withDarkMode component paintText) earlier element).tokens =
      (resolutionAfter config before element).tokens ++
        (config.tokens element.tag paintText .base).map ("dark:".toList ++ ·)
  not_qualified : ∀ earlier element, element.component = component →
    ∀ token ∈ (resolutionAfter config earlier element).tokens, ¬ IsQualified token
  filter_qualified : ∀ earlier element, element.component = component →
    (resolutionAfter (config.withDarkMode component paintText) earlier element).tokens.filter
        (IsQualified ·) =
      (config.tokens element.tag paintText .base).map ("dark:".toList ++ ·)
  unchanged : ∀ earlier before element, element.component ≠ component →
    resolutionAfter (config.withDarkMode component paintText) earlier element =
      resolutionAfter config before element

/-- A component that has no dark paint can be given any, which only adds to its elements' tokens. -/
theorem overlaySpec_of_none {config : Configuration} {component : Text}
    (h : config.darkMode[component]? = none) (paintText : Text) :
    OverlaySpec config component paintText := by
  have hlight : ∀ element, element.component = component →
      (config.cascaded element).tokens = config.lightTokens element := by
    rintro element rfl
    rw [cascaded_tokens, darkTokens_of_none h, List.append_nil]
  refine ⟨?_, ?_, ?_, ?_⟩
  · intro earlier before element hcomponent
    rw [resolutionAfter_eq_cascaded, resolutionAfter_eq_cascaded, hlight element hcomponent,
      cascaded_tokens, lightTokens_withDarkMode, darkTokens_withDarkMode hcomponent]
  · intro earlier element hcomponent token htoken
    rw [resolutionAfter_eq_cascaded, hlight element hcomponent] at htoken
    exact not_isQualified_of_mem_lightTokens htoken
  · intro earlier element hcomponent
    rw [resolutionAfter_eq_cascaded, filter_isQualified_cascaded, darkTokens_withDarkMode hcomponent]
  · intro earlier before element hcomponent
    rw [resolutionAfter_eq_cascaded, resolutionAfter_eq_cascaded,
      cascaded_withDarkMode_of_ne hcomponent]

theorem overlaySpec_of_other_component :
    let config := (Configuration.empty.withRule "button:[dark:red]".toList).withDarkMode
      "Card".toList "[#000]".toList
    config.darkMode["Clock".toList]? = none ∧ OverlaySpec config "Clock".toList "[#111]".toList := by
  intro config
  have hnone : config.darkMode["Clock".toList]? = none := by decide +kernel
  exact ⟨hnone, overlaySpec_of_none hnone _⟩

end Cascade

end ThemeCascade
