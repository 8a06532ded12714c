import ThemeCascade.Color.Palette
import ThemeCascade.Tag
import ThemeCascade.Theme

/-! Every tag has two templates of class tokens. In the one for themes a token may ask for the shade
of a role; in the one for custom values a token may embed the value in a declaration. -/

namespace ThemeCascade

/-- A token of a theme template: as it stands, or a utility completed by the shade of a role. -/
inductive ThemePart where
  | fixed (token : String)
  | shaded (utility : String) (role : Role)
deriving DecidableEq

/-- A token of a custom template: as it stands, or `[property:value]` with an optional modifier
before it and an optional opacity after it. -/
inductive CustomPart where
  | fixed (token : String)
  | declared (modifier : Option String) (property : String) (opacity : Option Nat)
deriving DecidableEq

namespace ThemePart

def render (theme : Theme) : ThemePart → Text
  | fixed token => token.toList
  | shaded utility role => utility.toList ++ '-' :: Palette.shade (theme.color role)

end ThemePart

namespace CustomPart

def modifierText : Option String → Text
  | none => []
  | some modifier => modifier.toList ++ [':']

def opacityText : Option Nat → Text
  | none => []
  | some percent => '/' :: Nat.toDigits 10 percent

def render (value : Text) : CustomPart → Text
  | fixed token => token.toList
  | declared modifier property opacity =>
    modifierText modifier ++ '[' :: property.toList ++ ':' :: value ++ ']' :: opacityText opacity

/-- A declaration with neither modifier nor opacity. -/
def plain (property : String) : CustomPart := declared none property none

/-- The text on a custom background is white. -/
def whiteText : CustomPart := fixed "[color:white]"

end CustomPart

namespace Tag

open ThemePart in
def themeTemplate : Tag → List ThemePart
  | div =>
    [ fixed "bg-gradient-to-br", shaded "from" .main, shaded "to" .dark, shaded "text" .text,
      fixed "p-6", fixed "rounded-lg", fixed "shadow-lg" ]
  | button =>
    [ shaded "bg" .dark, shaded "hover:bg" .main, shaded "text" .text, fixed "px-4", fixed "py-2",
      fixed "rounded-lg", fixed "font-medium", fixed "transition-colors", fixed "duration-200",
      fixed "shadow-md", fixed "hover:shadow-lg", fixed "cursor-pointer" ]
  | h1 => [fixed "text-4xl", fixed "font-bold", shaded "text" .light, fixed "mb-4"]
  | h2 => [fixed "text-3xl", fixed "font-bold", shaded "text" .light, fixed "mb-4"]
  | h3 => [fixed "text-2xl", fixed "font-semibold", shaded "text" .light, fixed "mb-3"]
  | h4 => [fixed "text-xl", fixed "font-semibold", shaded "text" .text, fixed "mb-2"]
  | p => [shaded "text" .text, fixed "opacity-90", fixed "mb-2"]
  | input =>
    [ fixed "border-2", shaded "border" .light, shaded "focus:border" .dark, fixed "rounded-lg",
      fixed "px-4", fixed "py-2", fixed "bg-white", fixed "text-gray-900",
      fixed "focus:outline-none", fixed "focus:ring-2", shaded "focus:ring" .main,
      fixed "focus:ring-opacity-50" ]
  | a => [shaded "text" .light, shaded "hover:text" .text, fixed "underline",
      fixed "transition-colors"]
  | span => [shaded "text" .text]
  | label => [shaded "text" .text, fixed "font-medium", fixed "mb-2", fixed "block"]

open CustomPart in
def customTemplate : Tag → List CustomPart
  | div => [plain "background-color", whiteText, fixed "p-6", fixed "rounded-lg", fixed "shadow-lg"]
  | button =>
    [ plain "background-color", declared (some "hover") "background-color" (some 90), whiteText,
      fixed "px-4", fixed "py-2", fixed "rounded-lg", fixed "font-medium",
      fixed "transition-colors", fixed "cursor-pointer" ]
  | h1 => [fixed "text-4xl", fixed "font-bold", whiteText, fixed "mb-4"]
  | h2 => [fixed "text-3xl", fixed "font-bold", whiteText, fixed "mb-4"]
  | h3 => [fixed "text-2xl", fixed "font-semibold", whiteText, fixed "mb-3"]
  | h4 => [fixed "text-xl", fixed "font-semibold", whiteText, fixed "mb-2"]
  | p => [whiteText, fixed "opacity-90", fixed "mb-2"]
  | input =>
    [ fixed "border-2", plain "border-color", fixed "rounded-lg", fixed "px-4", fixed "py-2",
      fixed "bg-white", fixed "text-gray-900", fixed "focus:outline-none" ]
  | a => [plain "color", fixed "hover:underline", fixed "transition-colors"]
  | span => [whiteText]
  | label => [whiteText, fixed "font-medium", fixed "mb-2", fixed "block"]

end Tag

end ThemeCascade
