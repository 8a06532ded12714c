import Mathlib.Data.List.Basic
import ThemeCascade.Proofs.Cascade.Paints
import ThemeCascade.Proofs.Cascade.Refinement

/-! # What a resolution depends on

A paint asks for one theme at most, and an element asks for the paints of the rules that it meets and of
its component's entries. Whatever else two configurations hold, it makes no difference to the element. -/

namespace ThemeCascade

namespace Configuration

variable {config other : Configuration} {element : Element}

/-! ## Paints -/

/-- A custom value asks for no theme. -/
theorem rendered_congr {paint : Paint}
    (h : ∀ name, paint = .theme name → other.themes[name]? = config.themes[name]?) (tag : Tag) :
    other.rendered tag paint = config.rendered tag paint := by
  cases paint with
  | custom value => rfl
  | theme name => simp only [rendered, h name rfl]

theorem tokens_congr {paintText : Text}
    (h : ∀ name, Paint.ofText paintText = .theme name → other.themes[name]? = config.themes[name]?)
    (tagName : Text) (variant : Variant) :
    other.tokens tagName paintText variant = config.tokens tagName paintText variant := by
  unfold tokens tagTokens
  cases Tag.ofName? tagName with
  | none => rfl
  | some tag => simp only [rendered_congr h]

theorem tokens_congr_of_themes (h : other.themes = config.themes) : other.tokens = config.tokens := by
  funext tagName paintText variant
  exact tokens_congr (fun _ _ => by rw [h]) tagName variant

/-! ## Contributions -/

theorem entryTokens_congr {paints entries : NameMap Text}
    (hentry : entries[element.component]? = paints[element.component]?)
    (htokens : ∀ paintText, paints[element.component]? = some paintText → ∀ variant,
      other.tokens element.tag paintText variant = config.tokens element.tag paintText variant)
    (variant : Variant) :
    other.entryTokens element entries variant = config.entryTokens element paints variant := by
  cases h : paints[element.component]? with
  | none => rw [entryTokens_of_none h, entryTokens_of_none (hentry.trans h)]
  | some paintText =>
      rw [entryTokens_of_some h, entryTokens_of_some (hentry.trans h)]
      exact htokens paintText h variant

theorem ruleTokens_congr (hrules : other.rules = config.rules)
    (htokens : ∀ rule, config.HasRule rule → element.meets rule = true →
      other.tokens element.tag rule.paintText .base = config.tokens element.tag rule.paintText .base) :
    other.ruleTokens element = config.ruleTokens element := by
  apply ruleTokens_eq_of_hasRule hrules
  intro rule hrule
  by_cases hmeets : element.meets rule = true
  · rw [if_pos hmeets, if_pos hmeets, htokens rule hrule hmeets]
  · rw [if_neg hmeets, if_neg hmeets]

/-- The cascade looks at nothing but the tokens of the rules and of the two entries. -/
theorem cascaded_congr (hlength : other.rules.length = config.rules.length)
    (hrule : other.ruleTokens element = config.ruleTokens element)
    (hcomponent : other.componentTokens element = config.componentTokens element)
    (hdark : other.darkTokens element = config.darkTokens element) :
    other.cascaded element = config.cascaded element := by
  unfold cascaded isUnruled ruleIndices
  rw [hlength, hrule, hcomponent, hdark]

/-! ## Configurations that agree about an element -/

/-- The theme is named by a rule that the element meets or by an entry of its component. -/
inductive Consults (config : Configuration) (element : Element) : Text → Prop where
  | rule {rule : Rule} {name : Text} : config.HasRule rule → element.meets rule = true →
      rule.paint = .theme name → Consults config element name
  | component {paintText name : Text} : config.components[element.component]? = some paintText →
      Paint.ofText paintText = .theme name → Consults config element name
  | darkMode {paintText name : Text} : config.darkMode[element.component]? = some paintText →
      Paint.ofText paintText = .theme name → Consults config element name

/-- The same rules, the same entries for the element's component, and for each theme that they name the
same literals, or none in both. -/
structure Agrees (config other : Configuration) (element : Element) : Prop where
  rules_eq : other.rules = config.rules
  component_eq : other.components[element.component]? = config.components[element.component]?
  darkMode_eq : other.darkMode[element.component]? = config.darkMode[element.component]?
  theme_eq : ∀ name, config.Consults element name → other.themes[name]? = config.themes[name]?

theorem Agrees.cascaded_eq (h : config.Agrees other element) :
    other.cascaded element = config.cascaded element := by
  apply cascaded_congr (congrArg List.length h.rules_eq)
  · apply ruleTokens_congr h.rules_eq
    intro rule hrule hmeets
    exact tokens_congr (fun name hpaint => h.theme_eq name (.rule hrule hmeets hpaint)) _ _
  · apply entryTokens_congr h.component_eq
    intro paintText hentry
    exact tokens_congr (fun name hpaint => h.theme_eq name (.component hentry hpaint)) _
  · apply entryTokens_congr h.darkMode_eq
    intro paintText hentry
    exact tokens_congr (fun name hpaint => h.theme_eq name (.darkMode hentry hpaint)) _

end Configuration

namespace Cascade

/-- Configurations that agree about an element resolve it alike, whatever each of them has resolved
before. -/
theorem resolutionAfter_eq_of_agrees {config other : Configuration} {element : Element}
    (h : config.Agrees other element) :
    (∀ earlier before, resolutionAfter other earlier element = resolutionAfter config before element) ∧
      (resolveOnce other element).answer = (resolveOnce config element).answer := by
  constructor
  · intro earlier before
    rw [resolutionAfter_eq_cascaded, resolutionAfter_eq_cascaded, h.cascaded_eq]
  · rw [resolveOnce_answer, resolveOnce_answer, h.cascaded_eq]

theorem resolutionAfter_eq_of_agrees_other_component :
    let config := ((((Configuration.empty.withTheme "primary".toList {}).withComponent "Clock".toList
      "primary".toList).withDarkMode "Clock".toList "[#000]".toList).withRule
      "button:primary".toList).withRule ".cta:danger".toList
    let other := (config.withTheme "danger".toList {}).withComponent "Card".toList "danger".toList
    let element : Element := { component := "Clock".toList, tag := "button".toList }
    config.Agrees other element ∧
      (∀ earlier before,
        resolutionAfter other earlier element = resolutionAfter config before element) ∧
      (resolveOnce other element).answer = (resolveOnce config element).answer := by
  intro config other element
  have hthemes : ∀ name, name ≠ "danger".toList → other.themes[name]? = config.themes[name]? :=
    fun name => NameMap.getElem?_insert_of_ne config.themes {}
  have hbutton : Rule.parse "button:primary".toList =
      .ok { target := some (.tag "button".toList), paintText := "primary".toList } := by decide +kernel
  have hcta : Rule.parse ".cta:danger".toList =
      .ok { target := some (.cls "cta".toList), paintText := "danger".toList } := by decide +kernel
  have hentry : config.components[element.component]? = some "primary".toList := by decide +kernel
  have hdark : config.darkMode[element.component]? = some "[#000]".toList := by decide +kernel
  have hagrees : config.Agrees other element := by
    refine ⟨rfl, by decide +kernel, rfl, fun name hconsults => hthemes name ?_⟩
    rintro rfl
    cases hconsults with
    | @rule rule _ hrule hmeets hpaint =>
        obtain ⟨text, htext, hparse⟩ := hrule
        change text ∈ ["button:primary".toList, ".cta:danger".toList] at htext
        obtain rfl | rfl : text = "button:primary".toList ∨ text = ".cta:danger".toList := by
          simpa using htext
        · obtain rfl := Except.ok.inj (hparse.symm.trans hbutton)
          exact absurd hpaint (by decide)
        · obtain rfl := Except.ok.inj (hparse.symm.trans hcta)
          exact absurd hmeets (by decide)
    | component hcomponent hpaint =>
        obtain rfl := Option.some.inj (hcomponent.symm.trans hentry)
        exact absurd hpaint (by decide)
    | darkMode hdarkMode hpaint =>
        obtain rfl := Option.some.inj (hdarkMode.symm.trans hdark)
        exact absurd hpaint (by decide)
  exact ⟨hagrees, resolutionAfter_eq_of_agrees hagrees⟩

end Cascade

end ThemeCascade
