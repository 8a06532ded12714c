import ThemeCascade.Configuration.Basic
import ThemeCascade.Json.Value

/-! Configurations as JSON values. Every section is given, the empty ones too, and every color of a theme
as it was configured. -/

namespace ThemeCascade

open Json

def Theme.value (theme : Theme) : Value :=
  .object
    [ ("main".toList, .text theme.main),
      ("light".toList, .text theme.light),
      ("dark".toList, .text theme.dark),
      ("text".toList, .text theme.text) ]

namespace Configuration

/-- A section has a member for each entry. -/
def sectionValue {α : Type} (value : α → Value) (entries : NameMap α) : Value :=
  .object (entries.toList.map fun (name, a) => (name, value a))

def value (config : Configuration) : Value :=
  .object
    [ ("colors".toList, sectionValue Theme.value config.themes),
      ("components".toList, sectionValue Value.text config.components),
      ("rules".toList, .list (config.rules.map Value.text)),
      ("darkMode".toList, sectionValue Value.text config.darkMode) ]

end Configuration

end ThemeCascade
