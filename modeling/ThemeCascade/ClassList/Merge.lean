import ThemeCascade.Text.Basic

/-! Adding tokens to the class list an author wrote. What the author wrote stays as it is; a new token
is left out if the author already set its property. -/

namespace ThemeCascade.ClassList

/-- The property a token sets: what stands before its first hyphen. -/
def property (token : Text) : Text := token.takeWhile (· ≠ '-')

/-- Whether an existing token sets the property: it is the property's name, alone or before a hyphen. -/
def sets (property existing : Text) : Bool :=
  existing = property || (property ++ ['-']).isPrefixOf existing

/-- The new tokens whose property no existing token sets, in order. -/
def additions (existing new : List Text) : List Text :=
  new.filter fun token => !existing.any (sets (property token))

/-- The words of the class attribute, none if there is no attribute. -/
def existingWords (existing : Option Text) : List Text := existing.elim [] Text.words

def merge (existing : Option Text) (new : List Text) : Text :=
  Text.unwords (existingWords existing ++ additions (existingWords existing) new)

end ThemeCascade.ClassList
