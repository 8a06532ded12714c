import ThemeCascade.Rule.Segment

/-! Why a text is not a rule. -/

namespace ThemeCascade

/-- The causes carry the text of the rule without the blanks around it. -/
inductive RuleError where
  | empty
  | malformed (rule : Text) (fault : Segment.Fault)
  | tooManySegments (rule : Text) (count : Nat)
  | emptyTarget (rule : Text)
deriving DecidableEq

def RuleError.message : RuleError → String
  | empty => "empty rule pattern"
  | malformed rule fault => "invalid rule `" ++ rule.shown ++ "`: " ++ fault.message
  | tooManySegments rule count =>
    "rule `" ++ rule.shown ++ "` has " ++ toString count ++ " segments, at most 3 are allowed"
  | emptyTarget rule => "rule `" ++ rule.shown ++ "` has an empty class or id selector"

end ThemeCascade
