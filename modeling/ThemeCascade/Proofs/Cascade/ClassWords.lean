import ThemeCascade.Proofs.Cascade.Paints
import ThemeCascade.Proofs.Cascade.Refinement
import ThemeCascade.Proofs.Text.Words

/-! # Classes as a set of words

A rule looks for its class among the words of the class attribute, and the cascade asks nothing else of it. In
which order the words stand, how often and between which blanks makes no difference to the element. -/

namespace ThemeCascade

namespace Element

variable {element other : Element}

/-- The name stands in the class attribute as a whole word. -/
def Bears (element : Element) (name : Text) : Prop := ∃ value ∈ element.classes, name.StandsIn value

theorem bears_iff_mem_words {name : Text} :
    element.Bears name ↔ ∃ value ∈ element.classes, name ∈ value.words := by
  simp only [Bears, Text.mem_words_iff]

theorem hasClass_iff_bears {name : Text} : element.hasClass name = true ↔ element.Bears name := by
  rw [bears_iff_mem_words]
  cases hclasses : element.classes with
  | none => simp [hasClass, hclasses]
  | some value => simp [hasClass, hclasses]

/-- An attribute that is missing and one of blanks alone are the same set. -/
theorem forall_not_bears_iff :
    (∀ name, ¬ element.Bears name) ↔ ∀ value ∈ element.classes, ∀ c ∈ value, Text.isBlank c = true := by
  simp only [bears_iff_mem_words, not_exists, not_and, ← Text.words_eq_nil_iff,
    List.eq_nil_iff_forall_not_mem]
  exact ⟨fun h value hvalue name => h name value hvalue, fun h name value hvalue => h value hvalue name⟩

/-- The elements differ in their class attributes at most, and the same words stand in both. -/
structure SameClasses (element other : Element) : Prop where
  component_eq : other.component = element.component
  tag_eq : other.tag = element.tag
  id_eq : other.id = element.id
  bears_iff : ∀ name, other.Bears name ↔ element.Bears name

theorem SameClasses.hasTarget_eq (h : element.SameClasses other) (target : Target) :
    other.hasTarget target = element.hasTarget target := by
  cases target with
  | tag name => simp only [hasTarget, h.tag_eq]
  | cls name =>
      rw [Bool.eq_iff_iff]
      exact hasClass_iff_bears.trans ((h.bears_iff name).trans hasClass_iff_bears.symm)
  | id name => simp only [hasTarget, h.id_eq]

theorem SameClasses.meets_eq (h : element.SameClasses other) (rule : Rule) :
    other.meets rule = element.meets rule := by
  have htarget : other.hasTarget = element.hasTarget := funext h.hasTarget_eq
  rw [meets, meets, h.component_eq, htarget]

theorem SameClasses.isLike (h : element.SameClasses other) (config : Configuration) :
    config.IsLike element other :=
  ⟨h.component_eq, h.tag_eq, fun rule _ => h.meets_eq rule⟩

theorem meets_iff_of_cls {rule : Rule} {name : Text} (h : rule.target = some (.cls name)) :
    element.meets rule = true ↔
      (∀ component ∈ rule.component, element.component = component) ∧ element.Bears name := by
  simp only [meets, h, Option.all_some, hasTarget, Bool.and_eq_true, Option.all_eq_true, decide_eq_true_eq,
    hasClass_iff_bears, Option.mem_def]

end Element

namespace Cascade

/-- The set of its class words is all that the cascade sees of an element's class attribute. A rule for a class
asks for a whole word, and no word stands in an attribute of blanks alone. -/
structure ClassWordSpec (config : Configuration) (element other : Element) : Prop where
  class_rule_iff : ∀ rule name, rule.target = some (.cls name) →
    (element.meets rule = true ↔
      (∀ component ∈ rule.component, element.component = component) ∧ element.Bears name)
  bare_iff : (∀ name, ¬ element.Bears name) ↔
    ∀ value ∈ element.classes, ∀ c ∈ value, Text.isBlank c = true
  meets_eq : ∀ rule, other.meets rule = element.meets rule
  resolutionAfter_eq : ∀ earlier before,
    resolutionAfter config earlier other = resolutionAfter config before element
  resolveOnce_eq : (resolveOnce config other).answer = (resolveOnce config element).answer

/-- Elements with the same class words are given the same tokens from the same sources, whatever has been
resolved before. -/
theorem classWordSpec_of_sameClasses {element other : Element} (h : element.SameClasses other)
    (config : Configuration) : ClassWordSpec config element other := by
  have hcascaded := (h.isLike config).cascaded_eq
  exact ⟨fun _ _ => Element.meets_iff_of_cls, Element.forall_not_bears_iff, h.meets_eq,
    resolutionAfter_congr hcascaded, resolveOnce_answer_congr hcascaded⟩

theorem classWordSpec_of_respaced :
    let config : Configuration := { rules := [".a.b:[red]".toList, ".a:[blue]".toList] }
    let element : Element := ⟨"Card".toList, "a".toList, some "a.b\u2003[x] a.b".toList, none⟩
    let other : Element := ⟨"Card".toList, "a".toList, some "\n[x]\u00a0a.b ".toList, none⟩
    element.SameClasses other ∧ ClassWordSpec config element other := by
  intro config element other
  have hwords : Text.words "a.b\u2003[x] a.b".toList = ["a.b".toList, "[x]".toList, "a.b".toList] := by
    decide
  have hrespaced : Text.words "\n[x]\u00a0a.b ".toList = ["[x]".toList, "a.b".toList] := by decide
  have hsame : element.SameClasses other := by
    refine ⟨rfl, rfl, rfl, fun name => ?_⟩
    simp only [Element.bears_iff_mem_words, element, other, Option.mem_some_iff, exists_eq_left', hwords,
      hrespaced, List.mem_cons, List.not_mem_nil]
    tauto
  exact ⟨hsame, classWordSpec_of_sameClasses hsame config⟩

end Cascade

end ThemeCascade
