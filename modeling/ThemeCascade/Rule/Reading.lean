import ThemeCascade.Traced

/-! Texts are read into a rule book one after the other. A text that is no rule is logged when it is
met. -/

namespace ThemeCascade.RuleBook

/-- The rule of a text, or its rejection, goes to the end of the book. -/
def enter (entry : Text × Nat) : Traced RuleBook Unit := fun book =>
  match Rule.parse entry.1 with
  | .ok rule => ⟨(), [], { book with rules := book.rules ++ [(entry.2, rule)] }⟩
  | .error error =>
    let rejection : Rejection := ⟨entry.2, entry.1, error⟩
    ⟨(), [.ruleSkipped rejection], { book with rejections := book.rejections ++ [rejection] }⟩

def enterAll (texts : List Text) : Traced RuleBook Unit := texts.zipIdx.forM enter

end ThemeCascade.RuleBook
