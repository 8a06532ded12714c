import ThemeCascade.Text.Basic

/-! What an element is given: class tokens, and the sources they came from. -/

namespace ThemeCascade

/-- A rule by its position, or the element's component's entry for light or for dark mode. -/
inductive Source where
  | rule (index : Nat)
  | component
  | darkMode
deriving DecidableEq

/-- The tokens of one source, possibly none. -/
structure Contribution where
  source : Source
  tokens : List Text
deriving DecidableEq

/-- Only sources that gave a token are listed. -/
structure Resolution where
  tokens : List Text := []
  sources : List Source := []
deriving DecidableEq

namespace Resolution

def ofContributions (l : List Contribution) : Resolution where
  tokens := l.flatMap Contribution.tokens
  sources := (l.filter (·.tokens ≠ [])).map Contribution.source

def isEmpty (resolution : Resolution) : Bool := resolution.tokens.isEmpty

end Resolution

end ThemeCascade
