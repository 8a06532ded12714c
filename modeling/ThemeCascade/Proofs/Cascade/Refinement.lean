import ThemeCascade.Proofs.Cascade.Semantics
import ThemeCascade.Proofs.Style.Memory

/-! # One table for many elements

Elements are resolved one after another on a table that only grows. Each of them is given the declared
cascade, as if it were the only one. -/

namespace ThemeCascade.Cascade

/-- Resolves elements in order, on one table. -/
def resolveAll (cascade : Cascade) (elements : List Element) : Traced TokenTable (List Resolution) :=
  elements.mapM cascade.resolve

/-- The table that a new cascade has after these elements. -/
def tableAfter (config : Configuration) (earlier : List Element) : TokenTable :=
  (((ofConfiguration config).resolveAll earlier).run .empty).memory

/-- What an element is given when these have been resolved before it. -/
def resolutionAfter (config : Configuration) (earlier : List Element) (element : Element) : Resolution :=
  (((ofConfiguration config).resolve element).run (tableAfter config earlier)).answer

/-- What an element is given by a cascade that has resolved nothing yet. -/
def freshResolution (config : Configuration) (element : Element) : Resolution :=
  (((ofConfiguration config).resolve element).run .empty).answer

variable (config : Configuration)

theorem yields_resolve (element : Element) :
    Traced.Yields (TokenTable.Faithful config) ((ofConfiguration config).resolve element)
      (config.cascaded element) :=
  Configuration.IsSupplied.yields_resolveWith (TokenTable.yields_request config element.tag)

theorem yields_resolveAll (elements : List Element) :
    Traced.Yields (TokenTable.Faithful config) ((ofConfiguration config).resolveAll elements)
      (elements.map config.cascaded) :=
  Traced.yields_mapM fun element _ => yields_resolve config element

theorem faithful_tableAfter (earlier : List Element) :
    TokenTable.Faithful config (tableAfter config earlier) :=
  (yields_resolveAll config earlier _ (TokenTable.faithful_empty config)).2

theorem resolutionAfter_eq_cascaded (earlier : List Element) (element : Element) :
    resolutionAfter config earlier element = config.cascaded element :=
  (yields_resolve config element _ (faithful_tableAfter config earlier)).1

theorem freshResolution_eq_cascaded (element : Element) :
    freshResolution config element = config.cascaded element :=
  (yields_resolve config element _ (TokenTable.faithful_empty config)).1

theorem resolveOnce_answer (element : Element) :
    (resolveOnce config element).answer = (config.cascaded element).tokens := by
  have hsupplied : config.IsSupplied element (fun _ => True) (fresh config element) :=
    fun _ _ => Traced.yields_pure _
  exact congrArg Resolution.tokens (hsupplied.yields_resolveWith () trivial).1

section Comparison

variable {config} {other : Configuration} {element counterpart : Element}
  (h : other.cascaded counterpart = config.cascaded element)
include h

/-- Where the declared cascades are the same, so are the resolutions, whatever has been resolved before each. -/
theorem resolutionAfter_congr (earlier before : List Element) :
    resolutionAfter other earlier counterpart = resolutionAfter config before element := by
  rw [resolutionAfter_eq_cascaded, resolutionAfter_eq_cascaded, h]

theorem resolveOnce_answer_congr :
    (resolveOnce other counterpart).answer = (resolveOnce config element).answer := by
  rw [resolveOnce_answer, resolveOnce_answer, h]

end Comparison

/-- A resolution follows the declared cascade. Only a contribution that has tokens is listed, and only
such a one of a rule stands in the way of the component's. -/
structure CascadeSpec (config : Configuration) (element : Element) (resolution : Resolution) : Prop where
  eq_cascaded : resolution = config.cascaded element
  ordered : resolution.sources.Pairwise Source.Precedes
  rule_mem_iff : ∀ index,
    .rule index ∈ resolution.sources ↔ config.ruleTokens element index ≠ []
  component_mem_iff : .component ∈ resolution.sources ↔
    (∀ index, config.ruleTokens element index = []) ∧ config.componentTokens element ≠ []
  darkMode_mem_iff : .darkMode ∈ resolution.sources ↔ config.darkTokens element ≠ []
  exclusive : ∀ index, .rule index ∈ resolution.sources → .component ∉ resolution.sources
  unruled : (∀ index, config.ruleTokens element index = []) →
    resolution.tokens = config.componentTokens element ++ config.darkTokens element

theorem cascaded_spec (element : Element) :
    CascadeSpec config element (config.cascaded element) := by
  refine ⟨rfl, Configuration.cascaded_pairwise, fun _ => Configuration.rule_mem_cascaded,
    Configuration.component_mem_cascaded, Configuration.darkMode_mem_cascaded, ?_, ?_⟩
  · intro index hrule hcomponent
    exact Configuration.rule_mem_cascaded.mp hrule
      ((Configuration.component_mem_cascaded.mp hcomponent).1 index)
  · exact Configuration.cascaded_tokens_of_unruled

/-- Whatever has been resolved before, an element is given the declared cascade. -/
theorem resolutionAfter_spec (config : Configuration) (earlier : List Element) (element : Element) :
    CascadeSpec config element (resolutionAfter config earlier element) := by
  rw [resolutionAfter_eq_cascaded]
  exact cascaded_spec config element

/-- Each of the elements is given what it would be given alone, with and without a table, and no element
that was resolved before it makes a difference. -/
theorem resolveAll_memoryless (config : Configuration) (elements : List Element) :
    let answers := (((ofConfiguration config).resolveAll elements).run .empty).answer
    answers = elements.map (freshResolution config) ∧
      answers.map Resolution.tokens =
        elements.map (fun element => (resolveOnce config element).answer) ∧
      ∀ earlier element, resolutionAfter config earlier element = freshResolution config element := by
  have hanswers : (((ofConfiguration config).resolveAll elements).run .empty).answer =
      elements.map config.cascaded :=
    (yields_resolveAll config elements _ (TokenTable.faithful_empty config)).1
  refine ⟨?_, ?_, ?_⟩
  · rw [hanswers]
    exact List.map_congr_left fun element _ => (freshResolution_eq_cascaded config element).symm
  · rw [hanswers, List.map_map]
    exact List.map_congr_left fun element _ => (resolveOnce_answer config element).symm
  · intro earlier element
    rw [resolutionAfter_eq_cascaded, freshResolution_eq_cascaded]

end ThemeCascade.Cascade
