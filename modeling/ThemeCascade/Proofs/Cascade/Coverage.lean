import ThemeCascade.Proofs.Cascade.Paints
import ThemeCascade.Proofs.Cascade.Refinement
import ThemeCascade.Proofs.Style.Liveness

/-! # Which elements are given tokens

An element is given a token exactly if its tag is recognised and a live paint is offered to it, by a rule that it
meets or by an entry of its component. A rule that gives nothing does not keep the component's paint from it,
and one that gives something has put a token in its place. -/

namespace ThemeCascade

namespace Configuration

variable {config : Configuration} {element : Element} {paintText : Text}

/-- A rule that the element meets names the paint, or an entry of its component does. -/
inductive Offers (config : Configuration) (element : Element) : Text → Prop where
  | rule {rule : Rule} : config.HasRule rule → element.meets rule = true →
      Offers config element rule.paintText
  | component {paintText : Text} : config.components[element.component]? = some paintText →
      Offers config element paintText
  | darkMode {paintText : Text} : config.darkMode[element.component]? = some paintText →
      Offers config element paintText

theorem Reaches.offers {variant : Variant} (h : config.Reaches element paintText variant) :
    config.Offers element paintText := by
  cases h with
  | rule hrule hmeets => exact .rule hrule hmeets
  | component _ hentry => exact .component hentry
  | darkMode hentry => exact .darkMode hentry

/-! ## Elements without a token -/

/-- Where there is no token there is none of any source: the component's paint gives way only to tokens. -/
theorem cascaded_tokens_eq_nil_iff :
    (config.cascaded element).tokens = [] ↔
      (∀ index, config.ruleTokens element index = []) ∧ config.componentTokens element = [] ∧
        config.darkTokens element = [] := by
  constructor
  · intro h
    obtain ⟨hlight, hdark⟩ := List.append_eq_nil_iff.mp h
    obtain ⟨hrules, hcomponent⟩ := List.append_eq_nil_iff.mp hlight
    have hunruled : config.isUnruled element = true := by
      simpa [isUnruled] using List.flatMap_eq_nil_iff.mp hrules
    rw [if_pos hunruled] at hcomponent
    exact ⟨isUnruled_iff.mp hunruled, hcomponent, hdark⟩
  · rintro ⟨hrules, hcomponent, hdark⟩
    rw [cascaded_tokens_of_unruled hrules, hcomponent, hdark, List.append_nil]

theorem cascaded_eq_empty_of_tokens_nil (h : (config.cascaded element).tokens = []) :
    config.cascaded element = {} := by
  obtain ⟨hrules, hcomponent, hdark⟩ := cascaded_tokens_eq_nil_iff.mp h
  have hsources : (config.cascaded element).sources = [] := by
    simp [cascaded, hrules, hcomponent, hdark]
  calc config.cascaded element
      = ⟨(config.cascaded element).tokens, (config.cascaded element).sources⟩ := rfl
    _ = {} := by rw [h, hsources]

theorem tokens_eq_nil_of_hasRule {rule : Rule} (hrule : config.HasRule rule)
    (hnil : ∀ index, config.ruleTokens element index = []) (hmeets : element.meets rule = true) :
    config.tokens element.tag rule.paintText .base = [] := by
  obtain ⟨text, htext, hparse⟩ := hrule
  obtain ⟨index, hindex⟩ := List.mem_iff_getElem?.mp htext
  calc config.tokens element.tag rule.paintText .base
      = config.textTokens element text := by rw [textTokens_of_ok hparse, if_pos hmeets]
    _ = config.ruleTokens element index := (ruleTokens_of_some hindex).symm
    _ = [] := hnil index

/-- A paint that is offered to an element without a token has none for it. -/
theorem Offers.exists_tokens_eq_nil (h : config.Offers element paintText)
    (hnil : (config.cascaded element).tokens = []) :
    ∃ variant, config.tokens element.tag paintText variant = [] := by
  obtain ⟨hrules, hcomponent, hdark⟩ := cascaded_tokens_eq_nil_iff.mp hnil
  cases h with
  | rule hrule hmeets => exact ⟨.base, tokens_eq_nil_of_hasRule hrule hrules hmeets⟩
  | component hentry => exact ⟨.base, (entryTokens_of_some hentry).symm.trans hcomponent⟩
  | darkMode hentry => exact ⟨.dark, (entryTokens_of_some hentry).symm.trans hdark⟩

theorem cascaded_tokens_ne_nil_iff :
    (config.cascaded element).tokens ≠ [] ↔
      (∃ tag : Tag, element.tag = tag.name) ∧
        ∃ paintText, config.Offers element paintText ∧ config.IsLive paintText := by
  constructor
  · intro h
    obtain ⟨token, htoken⟩ := List.exists_mem_of_ne_nil _ h
    obtain ⟨paintText, variant, hreaches, hmem⟩ := exists_reaches_of_mem_cascaded htoken
    obtain ⟨htag, hlive⟩ := tokens_ne_nil_iff.mp (List.ne_nil_of_mem hmem)
    exact ⟨htag, paintText, hreaches.offers, hlive⟩
  · rintro ⟨htag, paintText, hoffers, hlive⟩ hnil
    obtain ⟨variant, htokens⟩ := hoffers.exists_tokens_eq_nil hnil
    exact tokens_ne_nil_iff.mpr ⟨htag, hlive⟩ htokens

end Configuration

open ThemeCascade.Configuration

namespace Cascade

/-- Tokens are given exactly where a live paint meets a recognised tag. An unrecognised tag is given nothing,
whether or not a rule asks for it. -/
structure CoverageSpec (config : Configuration) (element : Element) (resolution : Resolution) : Prop where
  tokens_ne_nil_iff : resolution.tokens ≠ [] ↔
    (∃ tag : Tag, element.tag = tag.name) ∧
      ∃ paintText, config.Offers element paintText ∧ config.IsLive paintText
  eq_empty_of_unrecognised : (∀ tag : Tag, element.tag ≠ tag.name) → resolution = {}

/-- Whatever has been resolved before, the cascade covers exactly the elements that a live paint could color. -/
theorem resolutionAfter_covers (config : Configuration) (earlier : List Element) (element : Element) :
    CoverageSpec config element (resolutionAfter config earlier element) := by
  rw [resolutionAfter_eq_cascaded]
  refine ⟨cascaded_tokens_ne_nil_iff, fun htag => cascaded_eq_empty_of_tokens_nil ?_⟩
  apply Decidable.byContradiction
  intro h
  obtain ⟨⟨tag, hname⟩, -⟩ := cascaded_tokens_ne_nil_iff.mp h
  exact htag tag hname

example :
    let config : Configuration := { rules := ["Card:section:[red]".toList, "Card:a:missing".toList] }
    let element : Element := { component := "Card".toList, tag := "section".toList }
    resolutionAfter config [] element = {} := by
  decide +kernel

end Cascade

end ThemeCascade
