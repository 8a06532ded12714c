import ThemeCascade.Proofs.Cascade.RuleOrder
import ThemeCascade.Proofs.Rule.RoundTrip

/-! # The global mark

A mark behind a rule that has none is read as the mark and as nothing else. No element looks at it, so that a
marked rule holds of the same elements, those of its component only, and gives them the same tokens. -/

namespace ThemeCascade

/-! ## Reading a marked text -/

namespace Rule

/-- The same constraints and the same paint, marked as global. -/
def asGlobal (rule : Rule) : Rule := { rule with isGlobal := true }

/-- The text with a mark behind its last character that is no blank. -/
def markedText (t : Text) : Text := t.trim ++ ['*']

variable {t : Text} {rule : Rule}

theorem isTrimmed_markedText (t : Text) : (markedText t).IsTrimmed :=
  Text.isTrimmed_concat (Text.isTrimmed_trim t).head (by decide)

theorem splitMark_markedText (t : Text) : splitMark (markedText t).trim = (t.trim, true) := by
  rw [(isTrimmed_markedText t).trim_eq]
  exact (MarkDerivation.present t.trim).execution

theorem splitMark_trim_of_unmarked (h : t.trim.getLast? ≠ some '*') : splitMark t.trim = (t.trim, false) :=
  (MarkDerivation.absent h).execution

theorem RuleDerivation.asGlobal {isGlobal : Bool} {segments : List Text}
    (h : RuleDerivation isGlobal segments rule) : RuleDerivation true segments rule.asGlobal := by
  cases h with
  | paint paintText => exact .paint paintText
  | marked paintText hmarked => exact .marked paintText hmarked
  | tag tag paintText => exact .tag tag paintText
  | component paintText hmark htag => exact .component paintText hmark htag
  | componentMarked component paintText hmarked => exact .componentMarked component paintText hmarked
  | componentTag component paintText hmark => exact .componentTag component paintText hmark

theorem isGlobal_of_unmarked (h : parse t = .ok rule) (hlast : t.trim.getLast? ≠ some '*') :
    rule.isGlobal = false := by
  obtain ⟨segments, -, hrule⟩ := parse_eq_ok_iff.mp h
  rw [splitMark_trim_of_unmarked hlast] at hrule
  exact hrule.segments_eq.2

/-- The body is the same with and without the mark, so it has the same segments. -/
theorem parse_markedText (h : parse t = .ok rule) (hlast : t.trim.getLast? ≠ some '*') :
    parse (markedText t) = .ok rule.asGlobal := by
  obtain ⟨segments, hs, hrule⟩ := parse_eq_ok_iff.mp h
  rw [splitMark_trim_of_unmarked hlast] at hs
  exact parse_of_ruleDerivation (splitMark_markedText t) hs hrule.asGlobal

end Rule

/-! ## Styling with a marked rule -/

namespace Configuration

/-- The configuration with a mark behind the rule at this position. -/
def withRuleMarked (config : Configuration) (index : Nat) : Configuration :=
  config.withRules (config.rules.modify index Rule.markedText)

variable {config : Configuration} {element : Element} {index : Nat} {text : Text} {rule : Rule}

theorem textTokens_markedText (hparse : Rule.parse text = .ok rule)
    (hlast : text.trim.getLast? ≠ some '*') :
    config.textTokens element (Rule.markedText text) = config.textTokens element text := by
  rw [textTokens_of_ok (Rule.parse_markedText hparse hlast), textTokens_of_ok hparse]
  rfl

theorem ruleTokens_withRuleMarked (htext : config.rules[index]? = some text)
    (hparse : Rule.parse text = .ok rule) (hlast : text.trim.getLast? ≠ some '*') :
    (config.withRuleMarked index).ruleTokens element = config.ruleTokens element := by
  funext position
  have hmodified : (config.withRuleMarked index).rules[position]? =
      config.rules[position]?.map fun other => if index = position then Rule.markedText other else other :=
    List.getElem?_modify ..
  cases hposition : config.rules[position]? with
  | none => simp [ruleTokens, hmodified, hposition]
  | some other =>
      rw [hposition, Option.map_some] at hmodified
      rw [ruleTokens_of_some hposition, ruleTokens_of_some hmodified, withRuleMarked, textTokens_withRules]
      by_cases hindex : index = position
      · subst hindex
        obtain rfl : text = other := Option.some.inj (htext.symm.trans hposition)
        rw [if_pos rfl, textTokens_markedText hparse hlast]
      · rw [if_neg hindex]

theorem cascaded_withRuleMarked (htext : config.rules[index]? = some text)
    (hparse : Rule.parse text = .ok rule) (hlast : text.trim.getLast? ≠ some '*') :
    (config.withRuleMarked index).cascaded element = config.cascaded element :=
  cascaded_congr (List.length_modify ..) (ruleTokens_withRuleMarked htext hparse hlast)
    (entryTokens_withRules _ _) (entryTokens_withRules _ _)

end Configuration

namespace Cascade

/-- What a mark changes: the rule is read as a global one. It asks for its component as it did, and whatever
has been resolved before, every element is given the same tokens from the same sources. -/
structure GlobalMarkSpec (config : Configuration) (index : Nat) (text : Text) (rule : Rule) : Prop where
  isGlobal_eq : rule.isGlobal = false
  parse_eq : Rule.parse (Rule.markedText text) = .ok rule.asGlobal
  component_eq : ∀ element : Element, ∀ component ∈ rule.component,
    element.meets rule.asGlobal = true → element.component = component
  meets_eq : ∀ element : Element, element.meets rule.asGlobal = element.meets rule
  resolutionAfter_eq : ∀ earlier before element,
    resolutionAfter (config.withRuleMarked index) earlier element = resolutionAfter config before element
  resolveOnce_eq : ∀ element,
    (resolveOnce (config.withRuleMarked index) element).answer = (resolveOnce config element).answer

/-- Marking a rule changes no resolution, wherever it stands and whatever it is for. -/
theorem globalMarkSpec_of_unmarked {config : Configuration} {index : Nat} {text : Text} {rule : Rule}
    (htext : config.rules[index]? = some text) (hparse : Rule.parse text = .ok rule)
    (hlast : text.trim.getLast? ≠ some '*') : GlobalMarkSpec config index text rule := by
  have hcascaded : ∀ element, (config.withRuleMarked index).cascaded element = config.cascaded element :=
    fun _ => Configuration.cascaded_withRuleMarked htext hparse hlast
  refine ⟨Rule.isGlobal_of_unmarked hparse hlast, Rule.parse_markedText hparse hlast, ?_, fun _ => rfl, ?_, ?_⟩
  · intro element component hcomponent hmeets
    simp only [Element.meets, Bool.and_eq_true, Option.all_eq_true, decide_eq_true_eq] at hmeets
    exact hmeets.1 component hcomponent
  · intro earlier before element
    exact resolutionAfter_congr (hcascaded element) earlier before
  · intro element
    exact resolveOnce_answer_congr (hcascaded element)

theorem globalMarkSpec_of_inner_marks :
    let config : Configuration := { rules := ["a:b:c:d".toList, " *:.x*:[a*:b] ".toList] }
    let rule : Rule :=
      { component := some "*".toList, target := some (.cls "x*".toList), paintText := "[a*:b]".toList }
    config.rules[1]? = some " *:.x*:[a*:b] ".toList ∧ Rule.parse " *:.x*:[a*:b] ".toList = .ok rule ∧
      (Text.trim " *:.x*:[a*:b] ".toList).getLast? ≠ some '*' ∧
      GlobalMarkSpec config 1 " *:.x*:[a*:b] ".toList rule := by
  intro config rule
  have hparse : Rule.parse " *:.x*:[a*:b] ".toList = .ok rule := by decide +kernel
  exact ⟨rfl, hparse, by decide, globalMarkSpec_of_unmarked rfl hparse (by decide)⟩

end Cascade

end ThemeCascade
