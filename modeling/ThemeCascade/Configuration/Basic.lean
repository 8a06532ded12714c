import Std.Data.ExtTreeMap
import ThemeCascade.Theme

/-! The declarative input of styling: themes by name, rules in order, and for each component the
paint it has by default and the paint it has in dark mode. -/

namespace ThemeCascade

/-- A finite map from names, listed in the order of the names. Maps with the same entries are equal. -/
abbrev NameMap (α : Type) := Std.ExtTreeMap Text α

theorem NameMap.getElem?_insert_of_ne {α : Type} (entries : NameMap α) {name other : Text} (value : α)
    (h : other ≠ name) : (entries.insert name value)[other]? = entries[other]? := by
  rw [Std.ExtTreeMap.getElem?_insert, if_neg]
  intro heq
  exact h (Std.LawfulEqCmp.compare_eq_iff_eq.mp heq).symm

structure Configuration where
  themes : NameMap Theme := ∅
  components : NameMap Text := ∅
  rules : List Text := []
  darkMode : NameMap Text := ∅
deriving DecidableEq

namespace Configuration

def empty : Configuration := {}

def withTheme (config : Configuration) (name : Text) (theme : Theme) : Configuration :=
  { config with themes := config.themes.insert name theme }

def withComponent (config : Configuration) (component paint : Text) : Configuration :=
  { config with components := config.components.insert component paint }

def withRule (config : Configuration) (rule : Text) : Configuration :=
  { config with rules := config.rules ++ [rule] }

def withDarkMode (config : Configuration) (component paint : Text) : Configuration :=
  { config with darkMode := config.darkMode.insert component paint }

/-- No section has an entry. -/
def isEmpty (config : Configuration) : Bool :=
  config.themes.isEmpty && config.components.isEmpty && config.rules.isEmpty &&
    config.darkMode.isEmpty

end Configuration

end ThemeCascade
