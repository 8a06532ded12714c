import ThemeCascade.Text.Basic

/-! The element tags that have style templates. -/

namespace ThemeCascade

inductive Tag where
  | div | button | h1 | h2 | h3 | h4 | p | input | a | span | label
deriving DecidableEq

namespace Tag

def all : List Tag := [div, button, h1, h2, h3, h4, p, input, a, span, label]

def name : Tag → Text
  | div => "div".toList
  | button => "button".toList
  | h1 => "h1".toList
  | h2 => "h2".toList
  | h3 => "h3".toList
  | h4 => "h4".toList
  | p => "p".toList
  | input => "input".toList
  | a => "a".toList
  | span => "span".toList
  | label => "label".toList

/-- The tag of exactly this name, letter case included. -/
def ofName? (t : Text) : Option Tag := all.find? (·.name = t)

theorem ofName?_name (tag : Tag) : ofName? tag.name = some tag := by
  cases tag <;> decide

theorem ofName?_eq_some_iff {t : Text} {tag : Tag} : ofName? t = some tag ↔ t = tag.name := by
  constructor
  · intro h
    have hname := List.find?_some h
    simpa [eq_comm] using hname
  · rintro rfl
    exact ofName?_name tag

theorem ofName?_eq_none_iff {t : Text} : ofName? t = none ↔ ∀ tag : Tag, t ≠ tag.name := by
  simp only [Option.eq_none_iff_forall_ne_some, ne_eq, ofName?_eq_some_iff]

end Tag

end ThemeCascade
