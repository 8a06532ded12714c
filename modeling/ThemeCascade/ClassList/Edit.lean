import ThemeCascade.ClassList.Merge

/-! The class attribute of an element, and how to write tokens into it. -/

namespace ThemeCascade.ClassList

/-- The attribute as it stands in a document. A computed value cannot be looked into. -/
inductive Attribute where
  | absent
  | literal (value : Text)
  | computed
deriving DecidableEq

/-- A new attribute, a new literal value, or a text to put before a computed value. -/
inductive Edit where
  | insert (value : Text)
  | replace (value : Text)
  | prepend (value : Text)
deriving DecidableEq

namespace Attribute

/-- The value in which classes can be looked for. -/
def literal? : Attribute → Option Text
  | literal value => some value
  | absent | computed => none

end Attribute

namespace Edit

/-- The text that the edit writes. -/
def text : Edit → Text
  | insert value | replace value | prepend value => value

/-- The edit that adds the tokens, if that changes anything. A text put before a computed value ends
in a space. -/
def plan (current : Attribute) (tokens : List Text) : Option Edit :=
  if tokens = [] then none
  else
    match current with
    | .absent => some (.insert (merge none tokens))
    | .literal value =>
      if additions value.words tokens = [] then none
      else some (.replace (merge (some value) tokens))
    | .computed => some (.prepend (merge none tokens ++ [' ']))

end Edit

end ThemeCascade.ClassList
