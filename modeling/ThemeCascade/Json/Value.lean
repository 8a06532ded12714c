import ThemeCascade.Json.Number

/-! JSON values, apart from the texts that write them. -/

namespace ThemeCascade.Json

/-- The members of an object are in the order in which they are written. Texts and names are sequences of
Unicode scalar values, so none of these values is written with a surrogate that has no partner. -/
inductive Value where
  | null
  | boolean (value : Bool)
  | number (value : Number)
  | text (value : Text)
  | list (items : List Value)
  | object (members : List (Text × Value))

end ThemeCascade.Json
