import ThemeCascade.Proofs.Style.ClassTokens

/-! # What a theme can write

Color literals are arbitrary texts, but a theme writes only utilities: lowercase letters, digits, hyphens and
colons. Any other character of a token comes from a custom value. -/

namespace ThemeCascade

def IsUtilityChar (c : Char) : Prop := c.isLower = true ∨ c.isDigit = true ∨ c = '-' ∨ c = ':'

instance : DecidablePred IsUtilityChar := fun c =>
  inferInstanceAs (Decidable (c.isLower = true ∨ c.isDigit = true ∨ c = '-' ∨ c = ':'))

/-- A token that stands for a utility and nothing else. -/
structure IsUtility (token : Text) : Prop where
  ne_nil : token ≠ []
  chars : ∀ c ∈ token, IsUtilityChar c

-- Only the token is searched: an instance that was inferred could go through all characters.
instance (token : Text) : Decidable (IsUtility token) :=
  have : Decidable (∀ c ∈ token, IsUtilityChar c) := List.decidableBAll IsUtilityChar token
  decidable_of_iff (token ≠ [] ∧ ∀ c ∈ token, IsUtilityChar c)
    ⟨fun h => ⟨h.1, h.2⟩, fun h => ⟨h.ne_nil, h.chars⟩⟩

theorem IsUtility.append {token t : Text} (h : IsUtility token) (ht : ∀ c ∈ t, IsUtilityChar c) :
    IsUtility (token ++ t) :=
  ⟨by simp [h.ne_nil], List.forall_mem_append.mpr ⟨h.chars, ht⟩⟩

theorem isUtility_shade (literal : Text) : IsUtility (Palette.shade literal) := by
  obtain ⟨first, rest, hshade, hfirst, hrest⟩ := Palette.isShadeName_iff.mp (Palette.isShadeName_shade literal)
  rw [hshade]
  refine ⟨by simp, List.forall_mem_cons.mpr ⟨.inl hfirst, ?_⟩⟩
  intro c hc
  rcases hrest c hc with hlower | hdigit | hhyphen
  · exact .inl hlower
  · exact .inr (.inl hdigit)
  · exact .inr (.inr (.inl hhyphen))

/-! ## Templates -/

namespace ThemePart

/-- The part that the template gives. -/
def given : ThemePart → Text
  | fixed token => token.toList
  | shaded utility _ => utility.toList

theorem isUtility_render {part : ThemePart} (h : IsUtility part.given) (theme : Theme) :
    IsUtility (part.render theme) := by
  cases part with
  | fixed token => exact h
  | shaded utility role =>
      have hshade := isUtility_shade (theme.color role)
      exact h.append (List.forall_mem_cons.mpr ⟨by decide, hshade.chars⟩)

end ThemePart

theorem Tag.isUtility_given {tag : Tag} {part : ThemePart} (h : part ∈ tag.themeTemplate) :
    IsUtility part.given := by
  have hall : ∀ part ∈ tag.themeTemplate, IsUtility part.given := by cases tag <;> decide
  exact hall part h

theorem IsUtility.qualified {token : Text} (h : IsUtility token) (variant : Variant) :
    IsUtility (variant.qualifier ++ token) := by
  cases variant with
  | base => exact h
  | dark =>
      have hqualifier : IsUtility "dark:".toList := by decide
      exact hqualifier.append h.chars

/-! ## Tokens -/

namespace Configuration

variable {config : Configuration} {tag : Tag} {name token : Text}

theorem RenderDerivation.isUtility (h : RenderDerivation config tag (.theme name) token) : IsUtility token := by
  cases h with
  | theme _ hpart => exact ThemePart.isUtility_render (Tag.isUtility_given hpart) _

/-- Whatever the literals of a configuration hold, a paint that names a theme writes utilities only. -/
theorem isUtility_of_named_theme {paintText name : Text} (h : Paint.ofText paintText = .theme name)
    (config : Configuration) (tagName : Text) (variant : Variant) :
    ∀ token ∈ config.tokens tagName paintText variant, IsUtility token := by
  intro token htoken
  obtain ⟨tag, base, -, hbase, rfl⟩ := mem_tokens_iff.mp htoken
  rw [h] at hbase
  exact hbase.isUtility.qualified variant

theorem isUtility_of_named_theme_markup :
    let config := empty.withTheme "[red".toList { text := "\"><script>".toList }
    Paint.ofText "[red".toList = .theme "[red".toList ∧
      config.tokens "span".toList "[red".toList .dark = ["dark:text-gray-500".toList] ∧
      ∀ token ∈ config.tokens "span".toList "[red".toList .dark, IsUtility token := by
  intro config
  have hname : Paint.ofText "[red".toList = .theme "[red".toList := by decide
  exact ⟨hname, by decide +kernel, isUtility_of_named_theme hname config _ _⟩

end Configuration

end ThemeCascade
