import ThemeCascade.Json.Reader
import ThemeCascade.Proofs.Json.Numbers
import ThemeCascade.Proofs.Json.Order
import ThemeCascade.Proofs.Json.Strings

/-! # Parts of values

The first character of a text tells what kind of value it writes, and where lists, objects and their parts
begin and end. -/

namespace ThemeCascade.Json

/-! ## Space and first characters -/

variable {space : Text}

theorem skipSpace_append (h : IsSpace space) (t : Text) : skipSpace (space ++ t) = skipSpace t :=
  List.dropWhile_append_of_pos h

theorem skipSpace_cons {c : Char} (h : isSpace c = false) (t : Text) : skipSpace (c :: t) = c :: t := by
  simp [skipSpace, h]

theorem skipSpace_append_cons (hspace : IsSpace space) {c : Char} (h : isSpace c = false) (t : Text) :
    skipSpace (space ++ c :: t) = c :: t := by
  rw [skipSpace_append hspace, skipSpace_cons h]

/-- A text that writes the value may begin with the character. -/
inductive Value.Begins : Value → Char → Prop where
  | null : Begins null 'n'
  | true : Begins (boolean true) 't'
  | false : Begins (boolean false) 'f'
  | number {value : Number} {c : Char} : c = '-' ∨ c.isDigit = true → Begins (number value) c
  | text {value : Text} : Begins (text value) '"'
  | list {items : List Value} : Begins (list items) '['
  | object {members : List (Text × Value)} : Begins (object members) '{'

theorem Writes.head {value : Value} {t : Text} (h : Writes value t) :
    ∃ c rest, t = c :: rest ∧ value.Begins c := by
  cases h with
  | number hnumber =>
      obtain ⟨c, rest, rfl, hc⟩ := hnumber.head
      exact ⟨c, rest, rfl, .number hc⟩
  | null => exact ⟨'n', _, rfl, .null⟩
  | true => exact ⟨'t', _, rfl, .true⟩
  | false => exact ⟨'f', _, rfl, .false⟩
  | text _ => exact ⟨'"', _, rfl, .text⟩
  | list _ => exact ⟨'[', _, rfl, .list⟩
  | object _ => exact ⟨'{', _, rfl, .object⟩

namespace Value.Begins

variable {value : Value} {c : Char}

/-- Neither with space nor with the end of a list. -/
theorem not_closing (h : value.Begins c) : isSpace c = Bool.false ∧ c ≠ ']' := by
  cases h with
  | number hc =>
      simp only [isSpace, Bool.or_eq_false_iff, decide_eq_false_iff_not]
      refine ⟨⟨⟨⟨?_, ?_⟩, ?_⟩, ?_⟩, ?_⟩ <;> (rintro rfl; exact absurd hc (by decide))
  | null | true | false | text | list | object => decide

theorem eq_null (h : value.Begins 'n') : value = .null := by
  cases h with
  | null => rfl
  | number hc => exact absurd hc (by decide)

theorem eq_text (h : value.Begins '"') : ∃ content, value = .text content := by
  cases h with
  | text => exact ⟨_, rfl⟩
  | number hc => exact absurd hc (by decide)

theorem eq_list (h : value.Begins '[') : ∃ items, value = .list items := by
  cases h with
  | list => exact ⟨_, rfl⟩
  | number hc => exact absurd hc (by decide)

theorem eq_object (h : value.Begins '{') : ∃ members, value = .object members := by
  cases h with
  | object => exact ⟨_, rfl⟩
  | number hc => exact absurd hc (by decide)

end Value.Begins

namespace Reader

/-! ## Parts of lists and objects -/

theorem item_close (isFirst : Bool) (h : IsSpace space) (rest : Text) :
    item isFirst (space ++ ']' :: rest) = .ok (false, rest) := by
  simp [item, skipSpace_append_cons h (show isSpace ']' = false from rfl)]

/-- The next item is found behind its comma. -/
theorem item_comma (isFirst : Bool) {before after t : Text} {value : Value} (hbefore : IsSpace before)
    (hafter : IsSpace after) (ht : Writes value t) (rest : Text) :
    item isFirst (before ++ (comma isFirst ++ (after ++ (t ++ rest)))) = .ok (true, t ++ rest) := by
  obtain ⟨c, u, rfl, hc⟩ := ht.head
  obtain ⟨hspace, hclosing⟩ := hc.not_closing
  cases isFirst with
  | true =>
      simp [item, comma, skipSpace_append hbefore, skipSpace_append_cons hafter hspace, hclosing]
  | false =>
      simp [item, comma, skipSpace_append_cons hbefore (show isSpace ',' = false from rfl),
        skipSpace_append_cons hafter hspace, hclosing]

theorem member_close (isFirst : Bool) (h : IsSpace space) (rest : Text) :
    member isFirst (space ++ '}' :: rest) = .ok (none, rest) := by
  simp [member, skipSpace_append_cons h (show isSpace '}' = false from rfl)]

theorem name_of_writesChars {value t : Text} (h : WritesChars value t) (rest : Text) :
    name ('"' :: (t ++ rest)) = .ok (value, rest) := read_of_writesChars h rest

/-- The name of the next member is found behind its comma. -/
theorem member_comma (isFirst : Bool) {before after value t : Text} (hbefore : IsSpace before)
    (hafter : IsSpace after) (hname : WritesChars value t) (rest : Text) :
    member isFirst (before ++ (comma isFirst ++ (after ++ '"' :: (t ++ rest)))) =
      .ok (some value, rest) := by
  have hquote : isSpace '"' = false := rfl
  cases isFirst with
  | true =>
      simp [member, comma, skipSpace_append hbefore, skipSpace_append_cons hafter hquote,
        name_of_writesChars hname, Except.map]
  | false =>
      simp [member, comma, skipSpace_append_cons hbefore (show isSpace ',' = false from rfl),
        skipSpace_append_cons hafter hquote, name_of_writesChars hname, Except.map]

theorem colon_append (h : IsSpace space) (rest : Text) : colon (space ++ ':' :: rest) = .ok rest := by
  simp [colon, skipSpace_append_cons h (show isSpace ':' = false from rfl)]

end Reader

end ThemeCascade.Json
