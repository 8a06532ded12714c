import ThemeCascade.Text.Basic
import ThemeCascade.Text.Printable

/-! Text between double quotes, with a backslash before quotes and backslashes, short escapes for the
usual controls, and the code point in hexadecimal for every other character that cannot be shown. -/

namespace ThemeCascade.Text

/-- The code point in lowercase hexadecimal, between braces. -/
def hexEscape (c : Char) : Text :=
  '\\' :: 'u' :: '{' :: Nat.toDigits 16 c.toNat ++ ['}']

def escape (c : Char) : Text :=
  match c with
  | '"' => ['\\', '"']
  | '\\' => ['\\', '\\']
  | '\n' => ['\\', 'n']
  | '\r' => ['\\', 'r']
  | '\t' => ['\\', 't']
  | '\x00' => ['\\', '0']
  | c => if isPrintable c then [c] else hexEscape c

def quoted (t : Text) : String := String.ofList ('"' :: t.flatMap escape ++ ['"'])

/-- Quoted texts between brackets. -/
def quotedList (l : List Text) : String :=
  "[" ++ ", ".intercalate (l.map quoted) ++ "]"

def quotedOption : Option Text → String
  | none => "None"
  | some t => "Some(" ++ quoted t ++ ")"

end ThemeCascade.Text
