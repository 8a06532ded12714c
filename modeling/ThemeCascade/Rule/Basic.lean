import ThemeCascade.Color.Paint

/-! A rule gives a paint to the elements of a component, with a tag, a class or an id. Its text is
`component:target:paint`, where the first two may be missing and a final `*` marks a global rule. -/

namespace ThemeCascade

/-- What an element has to have besides its component. -/
inductive Target where
  | tag (name : Text)
  | cls (name : Text)
  | id (name : Text)
deriving DecidableEq

namespace Target

def render : Target → Text
  | tag name => name
  | cls name => '.' :: name
  | id name => '#' :: name

end Target

/-- Every constraint that is missing holds of every element. -/
structure Rule where
  isGlobal : Bool := false
  component : Option Text := none
  target : Option Target := none
  paintText : Text
deriving DecidableEq

namespace Rule

def paint (rule : Rule) : Paint := .ofText rule.paintText

/-- The tag that the rule asks for, recognised or not. -/
def tagName? (rule : Rule) : Option Text :=
  match rule.target with
  | some (.tag name) => some name
  | _ => none

def isUnconstrained (rule : Rule) : Bool := rule.component.isNone && rule.target.isNone

/-- The segments of the rule's text. -/
def segments (rule : Rule) : List Text :=
  rule.component.toList ++ (rule.target.map Target.render).toList ++ [rule.paintText]

def render (rule : Rule) : Text :=
  [':'].intercalate rule.segments ++ if rule.isGlobal then ['*'] else []

end Rule

end ThemeCascade
