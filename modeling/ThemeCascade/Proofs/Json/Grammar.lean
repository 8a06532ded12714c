import ThemeCascade.Json.Value

/-! # JSON texts

A value can be written in many ways: with space between its parts, and with escapes for any character of
a string. The relation between values and texts says which ways there are, without reading a text. -/

namespace ThemeCascade.Json

/-- Space may stand before and after every part of a value. -/
def IsSpace (t : Text) : Prop := ∀ c ∈ t, isSpace c = true

theorem isSpace_nil : IsSpace [] := by simp [IsSpace]

/-! ## Numbers -/

/-- At least one digit. -/
structure IsDigits (t : Text) : Prop where
  ne_nil : t ≠ []
  all_digits : ∀ c ∈ t, c.isDigit = true

inductive WritesFraction : Option Text → Text → Prop where
  | none : WritesFraction none []
  | some {digits : Text} : IsDigits digits → WritesFraction (some digits) ('.' :: digits)

/-- A positive exponent may have a sign, too. -/
inductive WritesSign : Bool → Text → Prop where
  | minus : WritesSign true ['-']
  | plus : WritesSign false ['+']
  | none : WritesSign false []

inductive WritesExponent : Option (Bool × Text) → Text → Prop where
  | none : WritesExponent none []
  | some {mark isNegative sign digits} : mark = 'e' ∨ mark = 'E' → WritesSign isNegative sign →
      IsDigits digits → WritesExponent (some (isNegative, digits)) (mark :: sign ++ digits)

/-- The whole part begins with a zero only if it is zero. -/
inductive WritesNumber : Number → Text → Prop where
  | intro {isNegative whole fraction exponent fractionText exponentText} :
      IsDigits whole → (whole.head? = some '0' → whole = ['0']) →
      WritesFraction fraction fractionText → WritesExponent exponent exponentText →
      WritesNumber ⟨isNegative, whole, fraction, exponent⟩
        ((if isNegative then ['-'] else []) ++ whole ++ fractionText ++ exponentText)

/-! ## Strings -/

/-- A hexadecimal digit, in either case. -/
inductive WritesDigit : Nat → Char → Prop where
  | lower {n : Nat} : n < 16 → WritesDigit n n.digitChar
  | upper {n : Nat} : n < 16 → WritesDigit n n.digitChar.toUpper

/-- Four hexadecimal digits. -/
inductive WritesUnit : Nat → Text → Prop where
  | intro {n₁ n₂ n₃ n₄ c₁ c₂ c₃ c₄} : WritesDigit n₁ c₁ → WritesDigit n₂ c₂ → WritesDigit n₃ c₃ →
      WritesDigit n₄ c₄ →
      WritesUnit (0x1000 * n₁ + 0x100 * n₂ + 0x10 * n₃ + n₄) [c₁, c₂, c₃, c₄]

/-- The characters that may follow a backslash, each with the one that it stands for. -/
def shortEscapes : List (Char × Char) :=
  [ ('"', '"'), ('\\', '\\'), ('/', '/'), ('b', '\x08'), ('f', '\x0c'), ('n', '\n'), ('r', '\r'),
    ('t', '\t') ]

/-- A character of a string. Quotes, backslashes and controls cannot stand for themselves; a character
that two code units stand for is escaped as a surrogate pair. -/
inductive WritesChar : Char → Text → Prop where
  | plain {c : Char} : c ≠ '"' → c ≠ '\\' → ' ' ≤ c → WritesChar c [c]
  | short {mark c : Char} : (mark, c) ∈ shortEscapes → WritesChar c ['\\', mark]
  | unit {c : Char} {hex : Text} : WritesUnit c.toNat hex → WritesChar c ('\\' :: 'u' :: hex)
  | pair {c : Char} {leading trailing : Text} : 0x10000 ≤ c.toNat →
      WritesUnit (0xd800 + (c.toNat - 0x10000) / 0x400) leading →
      WritesUnit (0xdc00 + (c.toNat - 0x10000) % 0x400) trailing →
      WritesChar c ('\\' :: 'u' :: leading ++ '\\' :: 'u' :: trailing)

/-- The characters of a string and its closing quote. -/
inductive WritesChars : Text → Text → Prop where
  | close : WritesChars [] ['"']
  | char {c : Char} {value t u : Text} : WritesChar c t → WritesChars value u →
      WritesChars (c :: value) (t ++ u)

/-! ## Values -/

/-- A comma stands before every part of a list or an object but the first. -/
def comma (isFirst : Bool) : Text := if isFirst then [] else [',']

mutual

/-- The text writes the value, without space before or after it. -/
inductive Writes : Value → Text → Prop where
  | null : Writes .null "null".toList
  | true : Writes (.boolean true) "true".toList
  | false : Writes (.boolean false) "false".toList
  | number {value : Number} {t : Text} : WritesNumber value t → Writes (.number value) t
  | text {value t : Text} : WritesChars value t → Writes (.text value) ('"' :: t)
  | list {items : List Value} {t : Text} : WritesItems true items t → Writes (.list items) ('[' :: t)
  | object {members : List (Text × Value)} {t : Text} : WritesMembers true members t →
      Writes (.object members) ('{' :: t)

/-- The items of a list and its closing bracket. -/
inductive WritesItems : Bool → List Value → Text → Prop where
  | close {isFirst : Bool} {space : Text} : IsSpace space → WritesItems isFirst [] (space ++ [']'])
  | item {isFirst : Bool} {value : Value} {items : List Value} {before after t u : Text} :
      IsSpace before → IsSpace after → Writes value t → WritesItems false items u →
      WritesItems isFirst (value :: items) (before ++ comma isFirst ++ after ++ t ++ u)

/-- The members of an object, each with its name, and the closing brace. -/
inductive WritesMembers : Bool → List (Text × Value) → Text → Prop where
  | close {isFirst : Bool} {space : Text} : IsSpace space →
      WritesMembers isFirst [] (space ++ ['}'])
  | member {isFirst : Bool} {name nameText : Text} {value : Value} {members : List (Text × Value)}
      {before after beforeColon afterColon t u : Text} :
      IsSpace before → IsSpace after → WritesChars name nameText → IsSpace beforeColon →
      IsSpace afterColon → Writes value t → WritesMembers false members u →
      WritesMembers isFirst ((name, value) :: members)
        (before ++ comma isFirst ++ after ++ '"' :: nameText ++ beforeColon ++ ':' :: afterColon ++ t ++ u)

end

/-- The whole of a text writes the value. -/
inductive WritesDocument : Value → Text → Prop where
  | intro {value : Value} {before t after : Text} : IsSpace before → Writes value t → IsSpace after →
      WritesDocument value (before ++ t ++ after)

theorem Writes.document {value : Value} {t : Text} (h : Writes value t) : WritesDocument value t := by
  simpa using WritesDocument.intro isSpace_nil h isSpace_nil

end ThemeCascade.Json
