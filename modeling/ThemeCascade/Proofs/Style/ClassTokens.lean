import ThemeCascade.Proofs.Color.Shades
import ThemeCascade.Style.Tokens

/-! # Tokens as words

Every token of a theme is a word. So is a token of a custom value, unless it holds the value as it stands
and the value has a blank. -/

namespace ThemeCascade

open Text

namespace ThemePart

def IsSound : ThemePart → Prop
  | fixed token => IsWord token.toList
  | shaded utility _ => IsWord utility.toList

instance : DecidablePred IsSound
  | fixed token => inferInstanceAs (Decidable (IsWord token.toList))
  | shaded utility _ => inferInstanceAs (Decidable (IsWord utility.toList))

theorem IsSound.isWord_render {part : ThemePart} (h : part.IsSound) (theme : Theme) :
    IsWord (part.render theme) := by
  cases part with
  | fixed token => exact h
  | shaded utility role =>
      have hshade := (Palette.isWord_shade (theme.color role)).unbroken
      exact ⟨by simp [render], isUnbroken_append.mpr ⟨h.unbroken, isUnbroken_cons.mpr ⟨by decide, hshade⟩⟩⟩

end ThemePart

namespace CustomPart

def IsSound : CustomPart → Prop
  | fixed token => IsWord token.toList
  | declared modifier property opacity =>
    IsUnbroken (modifierText modifier) ∧ IsUnbroken property.toList ∧ IsUnbroken (opacityText opacity)

instance : DecidablePred IsSound
  | fixed token => inferInstanceAs (Decidable (IsWord token.toList))
  | declared modifier property opacity =>
    inferInstanceAs (Decidable (IsUnbroken (modifierText modifier) ∧ IsUnbroken property.toList ∧
      IsUnbroken (opacityText opacity)))

variable {part : CustomPart} {value : Text}

theorem IsSound.render_ne_nil (h : part.IsSound) (value : Text) : part.render value ≠ [] := by
  cases part with
  | fixed token => exact h.ne_nil
  | declared modifier property opacity => simp [render]

theorem IsSound.isWord_render (h : part.IsSound) (hvalue : IsUnbroken value) :
    IsWord (part.render value) := by
  refine ⟨h.render_ne_nil value, ?_⟩
  cases part with
  | fixed token => exact h.unbroken
  | declared modifier property opacity =>
      obtain ⟨hmodifier, hproperty, hopacity⟩ := h
      have hpunctuation : isBlank '[' = false ∧ isBlank ':' = false ∧ isBlank ']' = false := by decide
      simp [render, hmodifier, hproperty, hopacity, hvalue, hpunctuation]

/-- A declaration holds the value as it stands. -/
theorem IsSound.isWord_or_infix (h : part.IsSound) (value : Text) :
    IsWord (part.render value) ∨ value <:+: part.render value := by
  cases part with
  | fixed token => exact .inl h
  | declared modifier property opacity =>
      refine .inr ⟨modifierText modifier ++ '[' :: property.toList ++ [':'], ']' :: opacityText opacity, ?_⟩
      simp [render]

end CustomPart

namespace Tag

theorem isSound_of_mem_themeTemplate {tag : Tag} {part : ThemePart} (h : part ∈ tag.themeTemplate) :
    part.IsSound := by
  have hall : ∀ part ∈ tag.themeTemplate, part.IsSound := by cases tag <;> decide
  exact hall part h

theorem isSound_of_mem_customTemplate {tag : Tag} {part : CustomPart} (h : part ∈ tag.customTemplate) :
    part.IsSound := by
  have hall : ∀ part ∈ tag.customTemplate, part.IsSound := by cases tag <;> decide
  exact hall part h

end Tag

theorem Variant.isUnbroken_qualifier (variant : Variant) : IsUnbroken variant.qualifier := by
  cases variant <;> decide

/-- The paint is a custom value with a blank, and the token holds it. -/
def Paint.Breaks (paint : Paint) (token : Text) : Prop :=
  ∃ value, paint = .custom value ∧ ¬ IsUnbroken value ∧ value <:+: token

namespace Configuration

variable {config : Configuration} {tag : Tag} {paint : Paint} {token : Text}

/-- What a template makes of a paint. -/
inductive RenderDerivation (config : Configuration) (tag : Tag) : Paint → Text → Prop where
  | theme {name theme part} : config.themes[name]? = some theme → part ∈ tag.themeTemplate →
      RenderDerivation config tag (.theme name) (part.render theme)
  | custom {part} (value) : part ∈ tag.customTemplate →
      RenderDerivation config tag (.custom value) (part.render value)

theorem renderDerivation_iff :
    RenderDerivation config tag paint token ↔ token ∈ config.rendered tag paint := by
  constructor
  · intro h
    cases h with
    | theme htheme hpart =>
        simp only [rendered, htheme]
        exact List.mem_map_of_mem hpart
    | custom value hpart => exact List.mem_map_of_mem hpart
  · intro h
    cases paint with
    | custom value =>
        obtain ⟨part, hpart, rfl⟩ := List.mem_map.mp h
        exact .custom value hpart
    | theme name =>
        cases htheme : config.themes[name]? with
        | none => simp [rendered, htheme] at h
        | some theme =>
            simp only [rendered, htheme] at h
            obtain ⟨part, hpart, rfl⟩ := List.mem_map.mp h
            exact .theme htheme hpart

theorem RenderDerivation.ne_nil (h : RenderDerivation config tag paint token) : token ≠ [] := by
  cases h with
  | theme _ hpart => exact ((Tag.isSound_of_mem_themeTemplate hpart).isWord_render _).ne_nil
  | custom value hpart => exact (Tag.isSound_of_mem_customTemplate hpart).render_ne_nil value

theorem RenderDerivation.isWord_or_breaks (h : RenderDerivation config tag paint token) :
    IsWord token ∨ paint.Breaks token := by
  cases h with
  | theme _ hpart => exact .inl ((Tag.isSound_of_mem_themeTemplate hpart).isWord_render _)
  | custom value hpart =>
      have hsound := Tag.isSound_of_mem_customTemplate hpart
      by_cases hvalue : IsUnbroken value
      · exact .inl (hsound.isWord_render hvalue)
      · exact (hsound.isWord_or_infix value).imp_right fun hinfix => ⟨value, rfl, hvalue, hinfix⟩

/-! ## The tokens of an element -/

variable {tagName paintText : Text} {variant : Variant}

theorem mem_tokens_iff :
    token ∈ config.tokens tagName paintText variant ↔
      ∃ tag base, Tag.ofName? tagName = some tag ∧ RenderDerivation config tag (.ofText paintText) base ∧
        token = variant.qualifier ++ base := by
  cases htag : Tag.ofName? tagName with
  | none => simp [tokens, htag]
  | some tag => simp [tokens, htag, tagTokens, renderDerivation_iff, eq_comm]

theorem ne_nil_of_mem_tokens (h : token ∈ config.tokens tagName paintText variant) : token ≠ [] := by
  obtain ⟨tag, base, -, hbase, rfl⟩ := mem_tokens_iff.mp h
  simp [hbase.ne_nil]

theorem isWord_or_breaks_of_mem_tokens (h : token ∈ config.tokens tagName paintText variant) :
    IsWord token ∨ (Paint.ofText paintText).Breaks token := by
  obtain ⟨tag, base, -, hbase, rfl⟩ := mem_tokens_iff.mp h
  rcases hbase.isWord_or_breaks with hword | ⟨value, hpaint, hvalue, hinfix⟩
  · exact .inl ⟨by simp [hword.ne_nil],
      isUnbroken_append.mpr ⟨variant.isUnbroken_qualifier, hword.unbroken⟩⟩
  · exact .inr ⟨value, hpaint, hvalue, hinfix.trans (List.infix_append_right ..)⟩

end Configuration

end ThemeCascade
