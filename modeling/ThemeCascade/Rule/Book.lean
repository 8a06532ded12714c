import ThemeCascade.Rule.Parser

/-! A rule book holds the rules of a list of texts with their positions in it, and beside them the
texts that are no rules. One bad text never blocks the others. -/

namespace ThemeCascade

/-- A text that is no rule, at its position, as it was written. -/
structure Rejection where
  index : Nat
  text : Text
  error : RuleError
deriving DecidableEq

structure RuleBook where
  rules : List (Nat × Rule) := []
  rejections : List Rejection := []
deriving DecidableEq

namespace RuleBook

def rule? (entry : Text × Nat) : Option (Nat × Rule) :=
  match Rule.parse entry.1 with
  | .ok rule => some (entry.2, rule)
  | .error _ => none

def rejection? (entry : Text × Nat) : Option Rejection :=
  match Rule.parse entry.1 with
  | .ok _ => none
  | .error error => some ⟨entry.2, entry.1, error⟩

/-- Both lists keep the order of the texts. -/
def ofTexts (texts : List Text) : RuleBook where
  rules := texts.zipIdx.filterMap rule?
  rejections := texts.zipIdx.filterMap rejection?

end RuleBook

end ThemeCascade
