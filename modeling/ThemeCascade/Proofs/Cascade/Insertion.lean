import ThemeCascade.Proofs.Cascade.Locality
import ThemeCascade.Proofs.Rule.Book

/-! # A text that is no rule

Put in among the configured rules, it is rejected at its place and does nothing else: elements are given
the tokens that they would be given without it, and only the positions after it are counted anew. -/

namespace ThemeCascade

/-! ## Rules at other positions -/

def Source.moved (move : Nat → Nat) : Source → Source
  | rule index => rule (move index)
  | component => component
  | darkMode => darkMode

def Contribution.moved (move : Nat → Nat) (contribution : Contribution) : Contribution :=
  { contribution with source := contribution.source.moved move }

namespace Resolution

/-- The same tokens, from rules at other positions. -/
def moved (move : Nat → Nat) (resolution : Resolution) : Resolution :=
  { resolution with sources := resolution.sources.map (Source.moved move) }

theorem ofContributions_moved (move : Nat → Nat) (l : List Contribution) :
    ofContributions (l.map (Contribution.moved move)) = (ofContributions l).moved move := by
  simp only [ofContributions, moved, List.flatMap_map, List.filter_map, List.map_map]
  rfl

end Resolution

namespace Configuration

variable {config other : Configuration} {element : Element} {move : Nat → Nat}

/-- The other configuration differs in the positions of its rules alone. -/
structure IsMoved (move : Nat → Nat) (config other : Configuration) : Prop where
  themes_eq : other.themes = config.themes
  components_eq : other.components = config.components
  darkMode_eq : other.darkMode = config.darkMode
  rules_eq : (RuleBook.ofTexts other.rules).rules =
    ((RuleBook.ofTexts config.rules).moved move).rules

namespace IsMoved

theorem ruleContributions_eq (h : IsMoved move config other) :
    other.ruleContributions element =
      (config.ruleContributions element).map (Contribution.moved move) := by
  simp only [ruleContributions, bookContributions, h.rules_eq, RuleBook.moved, List.filter_map,
    List.map_map]
  refine List.map_congr_left fun entry _ => ?_
  simp only [Function.comp_apply, ruleContribution, tokens_congr_of_themes h.themes_eq]
  rfl

theorem isUnruled_eq (h : IsMoved move config other) :
    other.isUnruled element = config.isUnruled element := by
  rw [← ruleContributions_all_nil, h.ruleContributions_eq, List.all_map, ← ruleContributions_all_nil]
  rfl

/-- An entry has no position. -/
theorem entryContributions_eq (h : IsMoved move config other) (source : Source)
    (hsource : source.moved move = source) (variant : Variant) (entry : Option Text) :
    other.entryContributions element source variant entry =
      (config.entryContributions element source variant entry).map (Contribution.moved move) := by
  simp only [entryContributions, List.map_map, tokens_congr_of_themes h.themes_eq]
  refine List.map_congr_left fun paintText _ => ?_
  simp only [Function.comp_apply, Contribution.moved, hsource]

theorem cascaded_eq (h : IsMoved move config other) :
    other.cascaded element = (config.cascaded element).moved move := by
  rw [← ofContributions_sourced, ← ofContributions_sourced, ← Resolution.ofContributions_moved,
    h.isUnruled_eq, h.ruleContributions_eq, h.components_eq, h.darkMode_eq,
    h.entryContributions_eq .component rfl, h.entryContributions_eq .darkMode rfl]
  simp only [List.map_append]
  split <;> rfl

end IsMoved

/-- The configuration with another text at this place among its rules. -/
def withRuleAt (config : Configuration) (place : Nat) (rule : Text) : Configuration :=
  { config with rules := config.rules.insertIdx place rule }

theorem isMoved_withRuleAt {text : Text} {error : RuleError} {place : Nat}
    (h : Rule.parse text = .error error) (hplace : place ≤ config.rules.length) :
    IsMoved (shiftedFrom place) config (config.withRuleAt place text) :=
  ⟨rfl, rfl, rfl, RuleBook.rules_insertIdx h hplace⟩

end Configuration

open ThemeCascade.Configuration

namespace Cascade

/-- What changes when a rejected text is put in: its own rejection is added, and positions from its
place on are shifted. Whatever has been resolved before, the tokens are the same. -/
structure InsertionSpec (config : Configuration) (place : Nat) (text : Text) (error : RuleError) :
    Prop where
  rejections_eq :
    let rejections := (ofConfiguration config).book.rejections
    (ofConfiguration (config.withRuleAt place text)).book.rejections =
      rejections.filter (·.index < place) ++ ⟨place, text, error⟩ ::
        (rejections.filter (place ≤ ·.index)).map (Rejection.moved (· + 1))
  tokens_eq : ∀ earlier before element,
    (resolutionAfter (config.withRuleAt place text) earlier element).tokens =
      (resolutionAfter config before element).tokens
  sources_eq : ∀ earlier before element,
    (resolutionAfter (config.withRuleAt place text) earlier element).sources =
      (resolutionAfter config before element).sources.map (Source.moved (shiftedFrom place))
  resolveOnce_eq : ∀ element,
    (resolveOnce (config.withRuleAt place text) element).answer = (resolveOnce config element).answer

/-- A text that is no rule affects nothing but the list of rejections, wherever it is put in. -/
theorem insertionSpec_of_error {config : Configuration} {place : Nat} {text : Text} {error : RuleError}
    (h : Rule.parse text = .error error) (hplace : place ≤ config.rules.length) :
    InsertionSpec config place text error := by
  have hcascaded : ∀ element, (config.withRuleAt place text).cascaded element =
      (config.cascaded element).moved (shiftedFrom place) :=
    fun element => (isMoved_withRuleAt h hplace).cascaded_eq
  refine ⟨RuleBook.rejections_insertIdx h hplace, ?_, ?_, ?_⟩
  · intro earlier before element
    rw [resolutionAfter_eq_cascaded, resolutionAfter_eq_cascaded, hcascaded]
    rfl
  · intro earlier before element
    rw [resolutionAfter_eq_cascaded, resolutionAfter_eq_cascaded, hcascaded]
    rfl
  · intro element
    rw [resolveOnce_answer, resolveOnce_answer, hcascaded]
    rfl

theorem insertionSpec_four_segments :
    let config : Configuration := { rules := ["a:[red]".toList, "::".toList, "p:primary".toList] }
    let text := " a:b:c:d ".toList
    Rule.parse text = .error (.tooManySegments "a:b:c:d".toList 4) ∧ 1 ≤ config.rules.length ∧
      InsertionSpec config 1 text (.tooManySegments "a:b:c:d".toList 4) := by
  intro config text
  have hparse : Rule.parse text = .error (.tooManySegments "a:b:c:d".toList 4) := by decide +kernel
  exact ⟨hparse, by decide, insertionSpec_of_error hparse (by decide)⟩

end Cascade

end ThemeCascade
