import ThemeCascade.Proofs.Cascade.Semantics

/-! # Where an element's tokens come from

Every token of the declared cascade is one of a paint that reaches the element. Of the element itself only
its component, its tag and the rules that it meets play a part. -/

namespace ThemeCascade.Configuration

/-- Some configured text is read as the rule. -/
def HasRule (config : Configuration) (rule : Rule) : Prop :=
  ∃ text ∈ config.rules, Rule.parse text = .ok rule

/-- A paint that the configuration names where it has an effect: a text that is no rule names none. -/
inductive Uses (config : Configuration) : Text → Prop where
  | rule {rule : Rule} : config.HasRule rule → Uses config rule.paintText
  | component {component paintText : Text} : config.components[component]? = some paintText →
      Uses config paintText
  | darkMode {component paintText : Text} : config.darkMode[component]? = some paintText →
      Uses config paintText

/-- A paint that the cascade turns to for the element, and in which variant. -/
inductive Reaches (config : Configuration) (element : Element) : Text → Variant → Prop where
  | rule {rule : Rule} : config.HasRule rule → element.meets rule = true →
      Reaches config element rule.paintText .base
  | component {paintText : Text} : config.isUnruled element = true →
      config.components[element.component]? = some paintText → Reaches config element paintText .base
  | darkMode {paintText : Text} : config.darkMode[element.component]? = some paintText →
      Reaches config element paintText .dark

variable {config : Configuration} {element : Element}

theorem Reaches.uses {paintText : Text} {variant : Variant}
    (h : config.Reaches element paintText variant) : config.Uses paintText := by
  cases h with
  | rule hrule _ => exact .rule hrule
  | component _ hentry => exact .component hentry
  | darkMode hentry => exact .darkMode hentry

/-! ## Tokens and their paints -/

theorem exists_rule_of_mem_ruleTokens {index : Nat} {token : Text}
    (h : token ∈ config.ruleTokens element index) :
    ∃ rule, config.HasRule rule ∧ element.meets rule = true ∧
      token ∈ config.tokens element.tag rule.paintText .base := by
  cases htext : config.rules[index]? with
  | none => simp [ruleTokens, htext] at h
  | some text =>
      rw [ruleTokens_of_some htext] at h
      cases hparse : Rule.parse text with
      | error error => simp [textTokens_of_error hparse] at h
      | ok rule =>
          rw [textTokens_of_ok hparse] at h
          by_cases hmeets : element.meets rule = true
          · rw [if_pos hmeets] at h
            exact ⟨rule, ⟨text, List.mem_of_getElem? htext, hparse⟩, hmeets, h⟩
          · simp [hmeets] at h

/-- Every position gives the same if every rule that is read there does. -/
theorem ruleTokens_eq_of_hasRule {config' : Configuration} {other : Element}
    (hrules : config'.rules = config.rules)
    (h : ∀ rule, config.HasRule rule →
      (if other.meets rule then config'.tokens other.tag rule.paintText .base else []) =
        if element.meets rule then config.tokens element.tag rule.paintText .base else []) :
    config'.ruleTokens other = config.ruleTokens element := by
  funext index
  cases htext : config.rules[index]? with
  | none => simp only [ruleTokens, hrules, htext]
  | some text =>
      rw [ruleTokens_of_some htext, ruleTokens_of_some (hrules ▸ htext)]
      cases hparse : Rule.parse text with
      | error error => rw [textTokens_of_error hparse, textTokens_of_error hparse]
      | ok rule =>
          rw [textTokens_of_ok hparse, textTokens_of_ok hparse]
          exact h rule ⟨text, List.mem_of_getElem? htext, hparse⟩

theorem exists_entry_of_mem_entryTokens {paints : NameMap Text} {variant : Variant} {token : Text}
    (h : token ∈ config.entryTokens element paints variant) :
    ∃ paintText, paints[element.component]? = some paintText ∧
      token ∈ config.tokens element.tag paintText variant := by
  cases hentry : paints[element.component]? with
  | none => simp [entryTokens_of_none hentry] at h
  | some paintText => exact ⟨paintText, rfl, entryTokens_of_some hentry ▸ h⟩

theorem exists_reaches_of_mem_cascaded {token : Text} (h : token ∈ (config.cascaded element).tokens) :
    ∃ paintText variant, config.Reaches element paintText variant ∧
      token ∈ config.tokens element.tag paintText variant := by
  simp only [cascaded, List.mem_append, List.mem_flatMap, List.mem_ite_nil_right] at h
  rcases h with (⟨index, -, hrule⟩ | ⟨hunruled, hcomponent⟩) | hdark
  · obtain ⟨rule, hconfigured, hmeets, htoken⟩ := exists_rule_of_mem_ruleTokens hrule
    exact ⟨_, _, .rule hconfigured hmeets, htoken⟩
  · obtain ⟨paintText, hentry, htoken⟩ := exists_entry_of_mem_entryTokens hcomponent
    exact ⟨_, _, .component hunruled hentry, htoken⟩
  · obtain ⟨paintText, hentry, htoken⟩ := exists_entry_of_mem_entryTokens hdark
    exact ⟨_, _, .darkMode hentry, htoken⟩

/-! ## Elements that cannot be told apart -/

/-- Nothing but the rules that they meet could make a difference to the cascade. -/
structure IsLike (config : Configuration) (element other : Element) : Prop where
  component_eq : other.component = element.component
  tag_eq : other.tag = element.tag
  meets_eq : ∀ rule, config.HasRule rule → other.meets rule = element.meets rule

variable {other : Element}

theorem IsLike.ruleTokens_eq (h : config.IsLike element other) :
    config.ruleTokens other = config.ruleTokens element := by
  apply ruleTokens_eq_of_hasRule rfl
  intro rule hrule
  rw [h.meets_eq rule hrule, h.tag_eq]

theorem IsLike.entryTokens_eq (h : config.IsLike element other) (paints : NameMap Text)
    (variant : Variant) :
    config.entryTokens other paints variant = config.entryTokens element paints variant := by
  simp only [entryTokens, h.component_eq, h.tag_eq]

theorem IsLike.cascaded_eq (h : config.IsLike element other) :
    config.cascaded other = config.cascaded element := by
  have hcomponent : config.componentTokens other = config.componentTokens element := h.entryTokens_eq _ _
  have hdark : config.darkTokens other = config.darkTokens element := h.entryTokens_eq _ _
  unfold cascaded isUnruled
  rw [h.ruleTokens_eq, hcomponent, hdark]

end ThemeCascade.Configuration
