import ThemeCascade.Rule.Basic

/-! An element to be styled, and the rules that hold of it. -/

namespace ThemeCascade

/-- Class and id are the literal values of the attributes, if there are any. -/
structure Element where
  component : Text
  tag : Text
  classes : Option Text := none
  id : Option Text := none
deriving DecidableEq

namespace Element

/-- Whether one of the words of the class attribute is this one. -/
def hasClass (element : Element) (name : Text) : Bool :=
  element.classes.any fun value => value.words.contains name

def hasTarget (element : Element) : Target → Bool
  | .tag name => element.tag = name
  | .cls name => element.hasClass name
  | .id name => element.id = some name

/-- An element meets a rule if it meets every constraint that the rule has. -/
def meets (element : Element) (rule : Rule) : Bool :=
  rule.component.all (element.component = ·) && rule.target.all element.hasTarget

end Element

end ThemeCascade
