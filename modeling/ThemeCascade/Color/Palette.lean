import ThemeCascade.Text.Basic

/-! Color literals and the palette. A shade is the name of a palette color as it stands in a class
token, such as `blue-500`; every literal has one. -/

namespace ThemeCascade.Palette

/-- The shade of every literal that names no palette color. -/
def neutral : Text := "gray-500".toList

/-- Six lowercase hexadecimal digits and their shade. -/
def shades : List (Text × Text) :=
  [ ("3b82f6", "blue-500"), ("60a5fa", "blue-400"), ("2563eb", "blue-600"), ("1d4ed8", "blue-700"),
    ("8b5cf6", "purple-500"), ("a78bfa", "purple-400"), ("7c3aed", "purple-600"),
    ("6d28d9", "purple-700"), ("a855f7", "fuchsia-500"), ("c084fc", "fuchsia-400"),
    ("9333ea", "fuchsia-600"), ("7e22ce", "fuchsia-700"), ("10b981", "green-500"),
    ("34d399", "green-400"), ("059669", "green-600"), ("047857", "green-700"),
    ("ef4444", "red-500"), ("f87171", "red-400"), ("dc2626", "red-600"), ("b91c1c", "red-700"),
    ("f59e0b", "amber-500"), ("fbbf24", "amber-400"), ("d97706", "amber-600"),
    ("b45309", "amber-700"), ("ffffff", "white"), ("000000", "black") ].map
    fun (hex, shade) => (hex.toList, shade.toList)

def isHexDigit (c : Char) : Bool :=
  c.isDigit || ('a' ≤ c && c ≤ 'f') || ('A' ≤ c && c ≤ 'F')

/-- Six lowercase digits for three or six hexadecimal ones, three of them doubled. -/
def sixDigits? (hex : Text) : Option Text :=
  if hex.all isHexDigit then
    match hex.length with
    | 3 => some ((hex.map Char.toLower).flatMap fun c => [c, c])
    | 6 => some (hex.map Char.toLower)
    | _ => none
  else none

/-- A lowercase letter, then lowercase letters, digits and hyphens. -/
def isShadeName (t : Text) : Bool :=
  t.head?.any Char.isLower && t.all fun c => c.isLower || c.isDigit || c = '-'

def shade (literal : Text) : Text :=
  match literal.trim with
  | '#' :: hex => ((sixDigits? hex).bind (shades.lookup ·)).getD neutral
  | t => if isShadeName t then t else neutral

end ThemeCascade.Palette
