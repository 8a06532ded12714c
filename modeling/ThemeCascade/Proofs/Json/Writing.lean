import ThemeCascade.Proofs.Json.Order

/-! # A text for each value

Of the texts that write a value, the compact one has no space and escapes only what cannot stand for
itself. -/

namespace ThemeCascade.Json

open List

/-! ## Strings -/

/-- A solidus stands for itself; a control without an escape of its own is written by its number. -/
def compactChar (c : Char) : Text :=
  if c = '/' then [c]
  else
    match shortEscapes.find? (·.2 = c) with
    | some (mark, _) => ['\\', mark]
    | none =>
      if c < ' ' then ['\\', 'u', '0', '0', (c.toNat / 16).digitChar, (c.toNat % 16).digitChar] else [c]

def compactString (value : Text) : Text := '"' :: (value.flatMap compactChar ++ ['"'])

theorem writesUnit_of_lt {n : Nat} (h : n < 0x100) :
    WritesUnit n ['0', '0', (n / 16).digitChar, (n % 16).digitChar] := by
  have hdigits : 0x1000 * 0 + 0x100 * 0 + 0x10 * (n / 16) + n % 16 = n := by omega
  have hzero : WritesDigit 0 '0' := .lower (by decide)
  have hunit : WritesUnit (0x1000 * 0 + 0x100 * 0 + 0x10 * (n / 16) + n % 16) _ :=
    .intro hzero hzero (.lower (by omega : n / 16 < 16)) (.lower (by omega : n % 16 < 16))
  rwa [hdigits] at hunit

theorem writesChar_compactChar (c : Char) : WritesChar c (compactChar c) := by
  by_cases hsolidus : c = '/'
  · subst hsolidus
    exact .plain (by decide) (by decide) (by decide)
  · cases hfind : shortEscapes.find? (·.2 = c) with
    | some escape =>
        obtain ⟨mark, c'⟩ := escape
        obtain rfl : c' = c := by simpa using find?_some hfind
        simpa [compactChar, hsolidus, hfind] using WritesChar.short (mem_of_find?_eq_some hfind)
    | none =>
        by_cases hcontrol : c < ' '
        · have hcode : c.toNat < 0x20 := hcontrol
          simpa [compactChar, hsolidus, hfind, hcontrol] using WritesChar.unit (writesUnit_of_lt (by omega))
        · have hquote : c ≠ '"' := by
            rintro rfl
            exact absurd hfind (by decide)
          have hbackslash : c ≠ '\\' := by
            rintro rfl
            exact absurd hfind (by decide)
          simpa [compactChar, hsolidus, hfind, hcontrol] using
            WritesChar.plain hquote hbackslash (Char.not_lt.mp hcontrol)

theorem writesChars_compactString (value : Text) :
    WritesChars value (value.flatMap compactChar ++ ['"']) := by
  induction value with
  | nil => exact .close
  | cons c value ih =>
      rw [flatMap_cons, append_assoc]
      exact .char (writesChar_compactChar c) ih

theorem writes_compactString (value : Text) : Writes (.text value) (compactString value) :=
  .text (writesChars_compactString value)

/-! ## Lists and objects -/

/-- The texts with commas between, and the closing bracket. -/
def compactParts (closing : Char) : Bool → List Text → Text
  | _, [] => [closing]
  | isFirst, t :: texts => comma isFirst ++ t ++ compactParts closing false texts

def compactList (texts : List Text) : Text := '[' :: compactParts ']' true texts

def compactMember (member : Text × Text) : Text := compactString member.1 ++ ':' :: member.2

def compactObject (members : List (Text × Text)) : Text :=
  '{' :: compactParts '}' true (members.map compactMember)

theorem writesItems_compactParts {items : List Value} {texts : List Text} (h : Forall₂ Writes items texts)
    (isFirst : Bool) : WritesItems isFirst items (compactParts ']' isFirst texts) := by
  induction h generalizing isFirst with
  | nil => exact .close isSpace_nil
  | cons ht _ ih => simpa [compactParts] using WritesItems.item isSpace_nil isSpace_nil ht (ih false)

theorem writesMembers_compactParts {members : List (Text × Value)} {texts : List (Text × Text)}
    (h : Forall₂ (Named Writes) members texts) (isFirst : Bool) :
    WritesMembers isFirst members (compactParts '}' isFirst (texts.map compactMember)) := by
  induction h generalizing isFirst with
  | nil => exact .close isSpace_nil
  | cons hmember _ ih =>
      cases hmember with
      | @intro name _ _ ht =>
          simpa [compactParts, compactMember, compactString] using
            WritesMembers.member isSpace_nil isSpace_nil (writesChars_compactString name) isSpace_nil
              isSpace_nil ht (ih false)

theorem writes_compactList {items : List Value} {texts : List Text} (h : Forall₂ Writes items texts) :
    Writes (.list items) (compactList texts) :=
  .list (writesItems_compactParts h true)

theorem writes_compactObject {members : List (Text × Value)} {texts : List (Text × Text)}
    (h : Forall₂ (Named Writes) members texts) : Writes (.object members) (compactObject texts) :=
  .object (writesMembers_compactParts h true)

end ThemeCascade.Json
