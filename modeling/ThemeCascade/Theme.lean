import ThemeCascade.Text.Basic

/-! A theme is four related color literals, one for each role a template can ask for. -/

namespace ThemeCascade

inductive Role where
  | main | light | dark | text
deriving DecidableEq

/-- The text color of a theme that has none of its own. -/
def Theme.white : Text := "#ffffff".toList

/-- The literals as they were configured. A theme that leaves one out has the empty literal, and
white for its text. -/
structure Theme where
  main : Text := []
  light : Text := []
  dark : Text := []
  text : Text := Theme.white
deriving DecidableEq

namespace Theme

/-- The literal for a role; a blank text color counts as white. -/
def color (theme : Theme) : Role → Text
  | .main => theme.main
  | .light => theme.light
  | .dark => theme.dark
  | .text => if theme.text.trim = [] then white else theme.text

end Theme

end ThemeCascade
