import ThemeCascade.Proofs.Traced
import ThemeCascade.Style.Table

/-! # What the table of tokens remembers

An insertion changes one entry of one row. Every entry holds the tokens that rendering its key would give.
Requests keep this invariant, so the table cannot be told from rendering anew. -/

namespace ThemeCascade.TokenTable

/-! ## Rows -/

@[simp] theorem row_nil (place : Place) : (TokenTable.mk []).row place = ∅ := rfl

@[simp] theorem row_cons (first : Place) (begun : Row) (rows : List (Place × Row)) (place : Place) :
    (TokenTable.mk ((first, begun) :: rows)).row place =
      if place = first then begun else (TokenTable.mk rows).row place := by
  by_cases h : place = first
  · simp [row, h]
  · simp [row, List.lookup_cons, beq_eq_false_iff_ne.mpr h, h]

@[simp] theorem size_cons (first : Place) (begun : Row) (rows : List (Place × Row)) :
    (TokenTable.mk ((first, begun) :: rows)).size = begun.size + (TokenTable.mk rows).size := rfl

theorem row_replaceRow (place other : Place) (next : Row) (rows : List (Place × Row)) :
    (TokenTable.mk (replaceRow place next rows)).row other =
      if other = place then next else (TokenTable.mk rows).row other := by
  induction rows with
  | nil => rw [replaceRow, row_cons]
  | cons first rows ih =>
      obtain ⟨first, begun⟩ := first
      by_cases hfirst : place = first
      · rw [replaceRow, if_pos hfirst, row_cons, row_cons, hfirst]
        by_cases hother : other = first
        · rw [if_pos hother, if_pos hother]
        · simp only [if_neg hother]
      · rw [replaceRow, if_neg hfirst, row_cons, row_cons, ih]
        by_cases hother : other = first
        · have hne : other ≠ place := by
            rintro rfl
            exact hfirst hother
          rw [if_pos hother, if_neg hne, if_pos hother]
        · rw [if_neg hother, if_neg hother]

theorem find?_insert (table : TokenTable) (key other : Key) (tokens : List Text) :
    (table.insert key tokens).find? other =
      if other = key then some tokens else table.find? other := by
  obtain ⟨tag, variant, paintText⟩ := key
  obtain ⟨tag', variant', paintText'⟩ := other
  simp only [find?, insert, row_replaceRow, Key.place]
  by_cases hplace : (⟨tag', variant'⟩ : Place) = ⟨tag, variant⟩
  · obtain ⟨rfl, rfl⟩ := Place.mk.inj hplace
    by_cases htext : paintText' = paintText
    · subst htext
      simp
    · simp [htext, NameMap.getElem?_insert_of_ne _ _ htext]
  · -- Keys of different rows differ, whatever their paints are.
    have hne : (⟨tag', variant', paintText'⟩ : Key) ≠ ⟨tag, variant, paintText⟩ := by
      rintro ⟨⟩
      exact hplace rfl
    rw [if_neg hplace, if_neg hne]

/-- One row is counted anew and the others as they were. -/
theorem size_replaceRow (place : Place) (next : Row) (rows : List (Place × Row)) :
    (TokenTable.mk (replaceRow place next rows)).size + ((TokenTable.mk rows).row place).size =
      (TokenTable.mk rows).size + next.size := by
  induction rows with
  | nil => simp [size, replaceRow]
  | cons first rows ih =>
      obtain ⟨first, begun⟩ := first
      by_cases hfirst : place = first
      · rw [replaceRow, if_pos hfirst, row_cons, if_pos hfirst, size_cons, size_cons]
        omega
      · rw [replaceRow, if_neg hfirst, row_cons, if_neg hfirst, size_cons, size_cons]
        omega

/-- A key that has no entry yet gets one. -/
theorem size_insert {table : TokenTable} {key : Key} (h : table.find? key = none) (tokens : List Text) :
    (table.insert key tokens).size = table.size + 1 := by
  have hrow : ((table.row key.place).insert key.paintText tokens).size = (table.row key.place).size + 1 := by
    rw [find?] at h
    simp [Std.ExtTreeMap.size_insert, Std.ExtTreeMap.contains_eq_isSome_getElem?, h]
  have hsize : (table.insert key tokens).size + (table.row key.place).size =
      table.size + ((table.row key.place).insert key.paintText tokens).size := size_replaceRow _ _ table.rows
  omega

/-! ## What is remembered -/

/-- The tokens of every entry are those of its tag, paint and variant. -/
def Faithful (config : Configuration) (table : TokenTable) : Prop :=
  ∀ key tokens, table.find? key = some tokens →
    tokens = config.tagTokens key.tag key.paintText key.variant

theorem find?_empty (key : Key) : empty.find? key = none := by
  simp [find?, row, empty]

theorem faithful_empty (config : Configuration) : Faithful config empty := by
  intro key tokens h
  rw [find?_empty] at h
  cases h

theorem Faithful.insert {config : Configuration} {table : TokenTable} (h : Faithful config table)
    (key : Key) :
    Faithful config (table.insert key (config.tagTokens key.tag key.paintText key.variant)) := by
  intro other tokens hfind
  rw [find?_insert] at hfind
  split at hfind
  · next heq =>
    subst heq
    exact (Option.some.inj hfind).symm
  · exact h other tokens hfind

/-! ## Requests -/

variable {config : Configuration} {tagName paintText : Text} {variant : Variant} {tag : Tag}
  {table : TokenTable}

theorem request_of_unrecognised (h : Tag.ofName? tagName = none) :
    (request config tagName paintText variant).run table = ⟨[], [], table⟩ := by
  simp only [Traced.run, request, h]

theorem request_of_stored {tokens : List Text} (h : Tag.ofName? tagName = some tag)
    (hfind : table.find? ⟨tag, variant, paintText⟩ = some tokens) :
    (request config tagName paintText variant).run table = ⟨tokens, [], table⟩ := by
  simp only [Traced.run, request, h, hfind]

theorem request_of_missing (h : Tag.ofName? tagName = some tag)
    (hfind : table.find? ⟨tag, variant, paintText⟩ = none) :
    (request config tagName paintText variant).run table =
      ⟨config.tagTokens tag paintText variant,
        [.tokensStored tag paintText variant (config.tagTokens tag paintText variant).length],
        table.insert ⟨tag, variant, paintText⟩ (config.tagTokens tag paintText variant)⟩ := by
  simp only [Traced.run, request, h, hfind]

/-- A request is answered with the tokens of its key, whether they were remembered or not. -/
theorem yields_request (config : Configuration) (tagName paintText : Text) (variant : Variant) :
    Traced.Yields (Faithful config) (request config tagName paintText variant)
      (config.tokens tagName paintText variant) := by
  intro table hfaithful
  cases h : Tag.ofName? tagName with
  | none =>
      rw [request_of_unrecognised h]
      exact ⟨by simp only [Configuration.tokens, h], hfaithful⟩
  | some tag =>
      have htokens : config.tokens tagName paintText variant = config.tagTokens tag paintText variant := by
        simp only [Configuration.tokens, h]
      rw [htokens]
      cases hfind : table.find? ⟨tag, variant, paintText⟩ with
      | none =>
          rw [request_of_missing h hfind]
          exact ⟨rfl, hfaithful.insert ⟨tag, variant, paintText⟩⟩
      | some tokens =>
          rw [request_of_stored h hfind]
          exact ⟨hfaithful _ _ hfind, hfaithful⟩

end ThemeCascade.TokenTable
