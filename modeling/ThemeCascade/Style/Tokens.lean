import ThemeCascade.Color.Paint
import ThemeCascade.Configuration.Basic
import ThemeCascade.Style.Template

/-! The class tokens of a tag under a paint. The dark variant of a token is the token behind a
qualifier. -/

namespace ThemeCascade

inductive Variant where
  | base | dark
deriving DecidableEq

namespace Variant

/-- What stands before every token of the variant. -/
def qualifier : Variant → Text
  | base => []
  | dark => "dark:".toList

end Variant

namespace Configuration

/-- The template of the tag, rendered for the paint. A theme that is not configured has no tokens. -/
def rendered (config : Configuration) (tag : Tag) : Paint → List Text
  | .custom value => tag.customTemplate.map (CustomPart.render value)
  | .theme name =>
    match config.themes[name]? with
    | some theme => tag.themeTemplate.map (ThemePart.render theme)
    | none => []

/-- The tokens of a recognised tag. -/
def tagTokens (config : Configuration) (tag : Tag) (paintText : Text) (variant : Variant) :
    List Text :=
  (config.rendered tag (.ofText paintText)).map (variant.qualifier ++ ·)

/-- The tokens of an element by its tag's name; an unrecognised tag has none. -/
def tokens (config : Configuration) (tagName paintText : Text) (variant : Variant) : List Text :=
  match Tag.ofName? tagName with
  | some tag => config.tagTokens tag paintText variant
  | none => []

end Configuration

end ThemeCascade
