import ThemeCascade.ClassList.Edit
import ThemeCascade.Element
import ThemeCascade.Rule.Book
import ThemeCascade.Style.Resolution
import ThemeCascade.Style.Tokens

/-! What is worth a line in a log. -/

namespace ThemeCascade

/-- The sections of a configuration that map components to paints. -/
inductive Section where
  | components | darkMode
deriving DecidableEq

inductive Event where
  | ruleSkipped (rejection : Rejection)
  | cascadeReady (rules skipped themes : Nat)
  | tokensStored (tag : Tag) (paintText : Text) (variant : Variant) (count : Nat)
  | ruleMatched (tag component : Text) (index : Nat) (rule : Rule) (tokens : List Text)
  | fileEntered (path : Text) (component : Option Text)
  | elementEdited (tag : Text) (component : Option Text) (edit : ClassList.Edit)
      (sources : List Source)
  | documentLoaded (path : Text) (themes components rules : Nat)
  | documentMissing (path : Text)
  | unknownTheme (place : Section) (component theme : Text)
deriving DecidableEq

end ThemeCascade
