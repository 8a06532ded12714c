import ThemeCascade.Proofs.Cascade.Locality
import ThemeCascade.Proofs.Cascade.Refinement
import ThemeCascade.Proofs.Rule.Book
import ThemeCascade.Proofs.Rule.RoundTrip

/-! # A component's paint as a rule

A component can be given a paint by its entry, or by a rule that names the component and the paint. Both
hand the same text to the templates, so its elements are given the same tokens. -/

namespace ThemeCascade

/-! ## Reading the rule -/

namespace Rule

open Segment

/-- A name that is taken for a component where it is the first of two segments. -/
structure IsComponentName (component : Text) : Prop where
  plain : IsPlain component
  unblank : ∀ c ∈ component.head?, Text.isBlank c = false
  unmarked : ¬ IsMarked component
  not_tag : ∀ tag : Tag, component ≠ tag.name

/-- A theme's name that a rule can end with, or a custom value in brackets. -/
inductive IsPaintText : Text → Prop where
  | theme {name : Text} : IsPlain name → (∀ c ∈ name.getLast?, Text.isBlank c = false ∧ c ≠ '*') →
      IsPaintText name
  | custom {value : Text} : value ≠ [] → ']' ∉ value → IsPaintText ('[' :: (value ++ [']']))

theorem IsPaintText.isSound {paintText : Text} (h : IsPaintText paintText) : IsSound paintText := by
  cases h with
  | theme hplain _ => exact .inl hplain
  | @custom value _ hvalue => exact .inr ⟨value, hvalue, rfl⟩

theorem IsPaintText.last {paintText : Text} (h : IsPaintText paintText) :
    ∀ c ∈ paintText.getLast?, Text.isBlank c = false ∧ c ≠ '*' := by
  cases h with
  | theme _ hlast => exact hlast
  | @custom value _ _ =>
      intro c hc
      rw [← List.cons_append, List.getLast?_concat, Option.mem_some] at hc
      subst hc
      decide

/-- The rule that gives a component the paint. -/
def ofComponent (component paintText : Text) : Rule := { component := some component, paintText }

variable {component paintText : Text}

theorem render_ofComponent (component paintText : Text) :
    (ofComponent component paintText).render = component ++ ':' :: paintText := by
  simp [ofComponent, render, segments, List.intercalate]

theorem getLast?_render_ofComponent (h : paintText ≠ []) :
    (ofComponent component paintText).render.getLast? = paintText.getLast? := by
  have hjoined : (ofComponent component paintText).render = joined ([component] ++ [paintText]) :=
    List.append_nil _
  rw [hjoined, getLast?_joined _ h]

theorem isWellFormed_ofComponent (hcomponent : IsComponentName component)
    (hpaint : IsPaintText paintText) : (ofComponent component paintText).IsWellFormed := by
  have hne : component ≠ [] := hcomponent.plain.ne_nil
  refine ⟨hpaint.isSound, ?_, nofun, nofun, nofun, ?_, ⟨?_, ?_⟩, ?_⟩
  · rintro _ ⟨⟩
    exact .inl hcomponent.plain
  · rintro _ ⟨⟩ _
    exact ⟨hcomponent.not_tag, hcomponent.unmarked⟩
  · rw [render_ofComponent, List.head?_append_of_ne_nil _ hne]
    exact hcomponent.unblank
  · rw [getLast?_render_ofComponent hpaint.isSound.ne_nil]
    exact fun c hc => (hpaint.last c hc).1
  · intro _ hstar
    exact (hpaint.last _ hstar).2 rfl

theorem parse_ofComponent (hcomponent : IsComponentName component) (hpaint : IsPaintText paintText) :
    parse (component ++ ':' :: paintText) = .ok (ofComponent component paintText) := by
  have hrule := isWellFormed_ofComponent hcomponent hpaint
  rw [← render_ofComponent]
  exact parse_of_ruleDerivation hrule.splitMark_render hrule.isSegmentation hrule.derivation

end Rule

/-! ## Contributions -/

/-- What a component's entry gives, told as the contribution of the rule at a position. -/
def Source.asRule (index : Nat) : Source → Source
  | component => rule index
  | source => source

namespace Resolution

/-- Contributions of dark mode stay what they are. -/
theorem sources_asRule {l : List Contribution} (hl : ∀ contribution ∈ l, contribution.source = .darkMode)
    (index : Nat) (tokens : List Text) :
    (ofContributions (⟨.rule index, tokens⟩ :: l)).sources =
      (ofContributions (⟨.component, tokens⟩ :: l)).sources.map (Source.asRule index) := by
  have hdark : (ofContributions l).sources.map (Source.asRule index) = (ofContributions l).sources := by
    rw [ofContributions, List.map_map]
    refine List.map_congr_left fun contribution hcontribution => ?_
    rw [Function.comp_apply, hl _ (List.mem_filter.mp hcontribution).1]
    rfl
  have hcons : ∀ source : Source, (ofContributions (⟨source, tokens⟩ :: l)).sources =
      (if tokens = [] then [] else [source]) ++ (ofContributions l).sources := by
    intro source
    by_cases h : tokens = [] <;> simp [ofContributions, h]
  rw [hcons, hcons, List.map_append, hdark]
  split <;> rfl

end Resolution

namespace Configuration

open Resolution

variable {config : Configuration} {element : Element} {component paintText : Text}

theorem tokens_withComponent (config : Configuration) (component paintText : Text) :
    (config.withComponent component paintText).tokens = config.tokens := tokens_congr_of_themes rfl

theorem tokens_withRule (config : Configuration) (text : Text) :
    (config.withRule text).tokens = config.tokens := tokens_congr_of_themes rfl

theorem entryContributions_congr {other : Configuration} (h : other.tokens = config.tokens) :
    other.entryContributions element = config.entryContributions element := by
  unfold entryContributions
  rw [h]

theorem source_of_mem_entryContributions {source : Source} {variant : Variant} {entry : Option Text} :
    ∀ contribution ∈ config.entryContributions element source variant entry,
      contribution.source = source := by
  intro contribution hcontribution
  obtain ⟨paintText, -, rfl⟩ := List.mem_map.mp hcontribution
  rfl

theorem bookContributions_congr {other : Configuration} (h : other.tokens = config.tokens) :
    other.bookContributions element = config.bookContributions element := by
  unfold bookContributions ruleContribution
  rw [h]

theorem effective_ruleContributions_of_unruled (h : config.isUnruled element = true) :
    effective (config.ruleContributions element) = [] :=
  effective_eq_nil_iff.mpr (ruleContributions_all_nil.trans h)

/-- Where no rule gives a token, the component's new entry is the first contribution. -/
theorem cascaded_withComponent (paintText : Text) (hcomponent : element.component = component)
    (hunruled : config.isUnruled element = true) :
    (config.withComponent component paintText).cascaded element =
      ofContributions
        (⟨.component, config.tokens element.tag paintText .base⟩ ::
          config.entryContributions element .darkMode .dark config.darkMode[element.component]?) := by
  have htokens := tokens_withComponent config component paintText
  have hrules : (config.withComponent component paintText).ruleContributions element =
      config.ruleContributions element := congrFun (bookContributions_congr htokens) _
  have hsame : (config.withComponent component paintText).isUnruled element = true := by
    rw [← ruleContributions_all_nil, hrules, ruleContributions_all_nil, hunruled]
  have hentry : (config.withComponent component paintText).components[element.component]? =
      some paintText := by
    rw [hcomponent]
    exact Std.ExtTreeMap.getElem?_insert_self
  rw [← ofContributions_sourced, if_pos hsame, hentry, hrules, entryContributions_congr htokens]
  apply ofContributions_congr
  rw [effective_append, effective_append, effective_ruleContributions_of_unruled hunruled,
    List.nil_append, ← effective_append]
  rfl

theorem ruleContributions_withRule {text : Text} {rule : Rule} (hrule : Rule.parse text = .ok rule)
    (hmeets : element.meets rule = true) :
    (config.withRule text).ruleContributions element =
      config.ruleContributions element ++
        [⟨.rule config.rules.length, config.tokens element.tag rule.paintText .base⟩] := by
  have hbook : (RuleBook.ofTexts [text]).rules = [(0, rule)] := by
    simp [RuleBook.ofTexts, RuleBook.rule?, hrule]
  have hrules : (RuleBook.ofTexts (config.withRule text).rules).rules =
      (RuleBook.ofTexts config.rules).rules ++ [(config.rules.length, rule)] := by
    simp [withRule, RuleBook.ofTexts_append, RuleBook.moved, hbook]
  rw [ruleContributions, hrules, bookContributions_congr (tokens_withRule config text),
    bookContributions, List.filter_append, List.map_append]
  simp [hmeets, ruleContribution, ruleContributions, bookContributions]

/-- So is the new rule, in its place after all others. -/
theorem cascaded_withRule {text : Text} (hrule : Rule.parse text = .ok (.ofComponent component paintText))
    (hcomponent : element.component = component) (hnone : config.components[component]? = none)
    (hunruled : config.isUnruled element = true) :
    (config.withRule text).cascaded element =
      ofContributions
        (⟨.rule config.rules.length, config.tokens element.tag paintText .base⟩ ::
          config.entryContributions element .darkMode .dark config.darkMode[element.component]?) := by
  have hmeets : element.meets (.ofComponent component paintText) = true := by
    simp [Element.meets, Rule.ofComponent, hcomponent]
  have hentry : (config.withRule text).components[element.component]? = none := hcomponent ▸ hnone
  rw [← ofContributions_sourced, ruleContributions_withRule hrule hmeets, hentry,
    entryContributions_congr (tokens_withRule config text)]
  apply ofContributions_congr
  -- without an entry the component's part is empty, whether or not the new rule has a token
  have hpart : (if (config.withRule text).isUnruled element = true then
      config.entryContributions element .component .base none else []) = [] := ite_self _
  rw [hpart, List.append_nil, List.append_assoc, effective_append,
    effective_ruleContributions_of_unruled hunruled]
  rfl

end Configuration

open ThemeCascade.Configuration

namespace Cascade

/-- The rule is read as it is meant, and an element is given the same tokens by it as by the component's
entry. The sources differ in that the rule stands where the entry stood. -/
structure ComponentRuleSpec (config : Configuration) (component paintText : Text) (element : Element) :
    Prop where
  parse_eq : Rule.parse (component ++ ':' :: paintText) = .ok (.ofComponent component paintText)
  tokens_eq : ∀ earlier before,
    (resolutionAfter (config.withRule (component ++ ':' :: paintText)) earlier element).tokens =
      (resolutionAfter (config.withComponent component paintText) before element).tokens
  sources_eq : ∀ earlier before,
    (resolutionAfter (config.withRule (component ++ ':' :: paintText)) earlier element).sources =
      (resolutionAfter (config.withComponent component paintText) before element).sources.map
        (Source.asRule config.rules.length)

/-- For elements that no rule styles, a paint means the same in a rule for their component as in its entry. -/
theorem componentRuleSpec_of_unruled {config : Configuration} {component paintText : Text}
    {element : Element} (hname : Rule.IsComponentName component) (hpaint : Rule.IsPaintText paintText)
    (hnone : config.components[component]? = none) (hcomponent : element.component = component)
    (hunruled : ∀ index, config.ruleTokens element index = []) :
    ComponentRuleSpec config component paintText element := by
  have hparse := Rule.parse_ofComponent hname hpaint
  have hrule := cascaded_withRule hparse hcomponent hnone (isUnruled_iff.mpr hunruled)
  have hentry := cascaded_withComponent paintText hcomponent (isUnruled_iff.mpr hunruled)
  refine ⟨hparse, ?_, ?_⟩
  · intro earlier before
    rw [resolutionAfter_eq_cascaded, resolutionAfter_eq_cascaded, hrule, hentry]
    rfl
  · intro earlier before
    rw [resolutionAfter_eq_cascaded, resolutionAfter_eq_cascaded, hrule, hentry]
    exact Resolution.sources_asRule source_of_mem_entryContributions _ _

/-- The value keeps its colon, its space and its asterisk on both ways. -/
theorem componentRuleSpec_of_custom :
    let config := ((Configuration.empty.withRule "Card:missing".toList).withRule "p:[red]".toList).withDarkMode
      "Card".toList "[#000]".toList
    let element : Element := { component := "Card".toList, tag := "a".toList }
    Rule.IsComponentName "Card".toList ∧ Rule.IsPaintText "[url(a:b *)]".toList ∧
      config.components["Card".toList]? = none ∧ (∀ index, config.ruleTokens element index = []) ∧
      ComponentRuleSpec config "Card".toList "[url(a:b *)]".toList element := by
  intro config element
  have hname : Rule.IsComponentName "Card".toList :=
    ⟨⟨by decide, by decide, by decide⟩, by rintro _ ⟨⟩; rfl, by unfold Rule.IsMarked; decide,
      fun tag => by cases tag <;> decide⟩
  have hvalue : "url(a:b *)".toList ≠ [] ∧ ']' ∉ "url(a:b *)".toList := by decide
  have hpaint : Rule.IsPaintText "[url(a:b *)]".toList := .custom hvalue.1 hvalue.2
  have hnone : config.components["Card".toList]? = none := by decide +kernel
  have hunruled : ∀ index, config.ruleTokens element index = [] :=
    Configuration.isUnruled_iff.mp (by decide +kernel)
  exact ⟨hname, hpaint, hnone, hunruled, componentRuleSpec_of_unruled hname hpaint hnone rfl hunruled⟩

end Cascade

end ThemeCascade
