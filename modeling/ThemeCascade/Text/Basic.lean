/-! Text is a list of characters. Here are its blanks, and what is left of a text without the blanks
around it (`trim`) or between its words (`words`). -/

namespace ThemeCascade

/-- A list of Unicode scalar values. -/
abbrev Text := List Char

namespace Text

/-- The characters of the property White_Space. -/
def isBlank (c : Char) : Bool :=
  (0x9 ≤ c.toNat && c.toNat ≤ 0xd) || (0x2000 ≤ c.toNat && c.toNat ≤ 0x200a) ||
    [0x20, 0x85, 0xa0, 0x1680, 0x2028, 0x2029, 0x202f, 0x205f, 0x3000].contains c.toNat

def trimStart (t : Text) : Text := t.dropWhile isBlank

def trimEnd (t : Text) : Text := (t.reverse.dropWhile isBlank).reverse

def trim (t : Text) : Text := t.trimStart.trimEnd

/-- The longest runs without a blank, in order. -/
def words (t : Text) : List Text := (t.splitOnP isBlank).filter (· ≠ [])

/-- Joins words by single spaces. -/
def unwords (l : List Text) : Text := [' '].intercalate l

/-- The text without its last character, if that is `c`. -/
def dropLast? (c : Char) (t : Text) : Option Text :=
  if t.getLast? = some c then some t.dropLast else none

theorem dropLast?_eq_some_iff {c : Char} {t body : Text} :
    dropLast? c t = some body ↔ t = body ++ [c] := by
  unfold dropLast?
  constructor
  · intro h
    split at h
    · next hlast =>
      obtain ⟨front, rfl⟩ := List.getLast?_eq_some_iff.mp hlast
      simpa using h
    · cases h
  · rintro rfl
    simp

theorem dropLast?_eq_none_iff {c : Char} {t : Text} :
    dropLast? c t = none ↔ t.getLast? ≠ some c := by
  simp [dropLast?]

/-- The length of the text in UTF-8. -/
def byteLength : Text → Nat
  | [] => 0
  | c :: t => c.utf8Size + byteLength t

/-- The text as a string, for messages. -/
def shown (t : Text) : String := String.ofList t

end Text

end ThemeCascade
