import ThemeCascade.Proofs.Cascade.Locality
import ThemeCascade.Proofs.Cascade.Refinement
import ThemeCascade.Proofs.ClassList.Conservation

/-! # The order of the rules

Rules add up and none of them wins over another, so their order decides nothing but the order of the tokens
that they give. What stands behind these tokens, and the kind of the edit, are the same in every order. -/

namespace ThemeCascade

open List ClassList

namespace Configuration

variable {config : Configuration} {element : Element} {rules : List Text}

/-! ## Tokens of rules, and others -/

/-- The tokens of all rules that the element meets. -/
def ruledTokens (config : Configuration) (element : Element) : List Text :=
  config.ruleIndices.flatMap (config.ruleTokens element)

/-- The tokens of the element's component, for light mode only where no rule gave one. -/
def ownTokens (config : Configuration) (element : Element) : List Text :=
  (if config.ruledTokens element = [] then config.componentTokens element else []) ++
    config.darkTokens element

theorem isUnruled_iff_ruledTokens : config.isUnruled element ↔ config.ruledTokens element = [] := by
  simp [isUnruled, ruledTokens]

theorem cascaded_tokens_eq (config : Configuration) (element : Element) :
    (config.cascaded element).tokens = config.ruledTokens element ++ config.ownTokens element := by
  simp only [cascaded, ownTokens, isUnruled_iff_ruledTokens, append_assoc]
  rfl

/-- No position plays a part in what a rule gives. -/
theorem ruledTokens_eq_flatMap (config : Configuration) (element : Element) :
    config.ruledTokens element = config.rules.flatMap (config.textTokens element) := by
  calc config.ruledTokens element
      = config.rules.zipIdx.flatMap fun entry => config.ruleTokens element entry.2 := by
        rw [ruledTokens, ruleIndices, range_eq_range', ← zipIdx_map_snd, flatMap_map]
    _ = config.rules.zipIdx.flatMap fun entry => config.textTokens element entry.1 := by
        refine flatMap_congr fun entry hentry => ?_
        exact ruleTokens_of_some (mem_zipIdx_iff_getElem?.mp hentry)
    _ = config.rules.flatMap (config.textTokens element) := by
        rw [← flatMap_map Prod.fst, zipIdx_map_fst]

/-! ## Rules in another order -/

def withRules (config : Configuration) (rules : List Text) : Configuration := { config with rules }

theorem tokens_withRules (config : Configuration) (rules : List Text) :
    (config.withRules rules).tokens = config.tokens := tokens_congr_of_themes rfl

theorem textTokens_withRules (config : Configuration) (rules : List Text) :
    (config.withRules rules).textTokens element = config.textTokens element := by
  funext text
  simp only [textTokens, tokens_withRules]

theorem ruledTokens_perm (h : rules ~ config.rules) :
    (config.withRules rules).ruledTokens element ~ config.ruledTokens element := by
  rw [ruledTokens_eq_flatMap, ruledTokens_eq_flatMap, textTokens_withRules]
  exact h.flatMap_right _

theorem entryTokens_withRules (paints : NameMap Text) (variant : Variant) :
    (config.withRules rules).entryTokens element paints variant =
      config.entryTokens element paints variant := by
  simp only [entryTokens, tokens_withRules]

/-- Whether any rule gave a token does not depend on which came first. -/
theorem ownTokens_withRules (h : rules ~ config.rules) :
    (config.withRules rules).ownTokens element = config.ownTokens element := by
  have hnil : (config.withRules rules).ruledTokens element = [] ↔ config.ruledTokens element = [] :=
    eq_nil_iff_of_perm (ruledTokens_perm h)
  simp only [ownTokens, hnil, componentTokens, darkTokens, entryTokens_withRules]
  rfl

end Configuration

open ThemeCascade.Configuration

namespace Cascade

/-- What another order of the rules can change. An element is given the same tokens, those of rules first and
in another order, and its class attribute is edited in the same way by the same additions. -/
structure RuleOrderSpec (config : Configuration) (rules : List Text) : Prop where
  tokens_eq : ∀ earlier element,
    (resolutionAfter config earlier element).tokens =
      config.ruledTokens element ++ config.ownTokens element
  reordered_tokens_eq : ∀ earlier element,
    (resolutionAfter (config.withRules rules) earlier element).tokens =
      (config.withRules rules).ruledTokens element ++ config.ownTokens element
  ruled_perm : ∀ element, (config.withRules rules).ruledTokens element ~ config.ruledTokens element
  edits : ∀ earlier before element current,
    let tokens := (resolutionAfter config before element).tokens
    let reordered := (resolutionAfter (config.withRules rules) earlier element).tokens
    let author := existingWords current.literal?
    reordered ~ tokens ∧ additions author reordered ~ additions author tokens ∧
      Edit.Counterparts author (additions author tokens) (additions author reordered)
        (Edit.plan current tokens) (Edit.plan current reordered)

/-- The order of the rules affects only the order of the tokens. -/
theorem ruleOrderSpec_of_perm {config : Configuration} {rules : List Text} (h : rules ~ config.rules) :
    RuleOrderSpec config rules := by
  have htokens : ∀ earlier element, (resolutionAfter config earlier element).tokens =
      config.ruledTokens element ++ config.ownTokens element := by
    intro earlier element
    rw [resolutionAfter_eq_cascaded, cascaded_tokens_eq]
  have hreordered : ∀ earlier element,
      (resolutionAfter (config.withRules rules) earlier element).tokens =
        (config.withRules rules).ruledTokens element ++ config.ownTokens element := by
    intro earlier element
    rw [resolutionAfter_eq_cascaded, cascaded_tokens_eq, ownTokens_withRules h]
  refine ⟨htokens, hreordered, fun _ => ruledTokens_perm h, ?_⟩
  intro earlier before element current
  have hperm : (resolutionAfter (config.withRules rules) earlier element).tokens ~
      (resolutionAfter config before element).tokens := by
    rw [htokens, hreordered]
    exact (ruledTokens_perm h).append_right _
  exact ⟨hperm, additions_perm hperm, Edit.counterparts_plan hperm current⟩

theorem ruleOrderSpec_of_reverse :
    let config : Configuration := { rules := ["a:[red]".toList, "::".toList, "Card:[blue]".toList] }
    config.rules.reverse ~ config.rules ∧ RuleOrderSpec config config.rules.reverse :=
  ⟨reverse_perm _, ruleOrderSpec_of_perm (reverse_perm _)⟩

end Cascade

end ThemeCascade
