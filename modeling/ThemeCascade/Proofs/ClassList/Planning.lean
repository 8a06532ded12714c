import ThemeCascade.Proofs.ClassList.Merging

/-! # What an edit changes

There is an edit exactly if it would change the words of the class attribute. What it writes begins with the
author's words, and a computed value stays behind it word by word. Tokens that were merged before find their
properties set, so merging any of them again gives back the same text. -/

namespace ThemeCascade.ClassList

open Text

variable {existing : Option Text} {tokens again : List Text} {value : Text}

/-! ## Merging again -/

theorem additions_words_merge (hwords : ∀ token ∈ tokens, IsWord token) (hagain : again ⊆ tokens) :
    additions (merge existing tokens).words again = [] := by
  rw [words_merge_of_isWord existing hwords]
  exact additions_eq_nil_of_subset (additions_append_additions _ _) hagain

/-- A merge that adds nothing leaves only single spaces between the words. -/
theorem merge_of_additions_nil (h : additions value.words tokens = []) :
    merge (some value) tokens = unwords value.words := by
  rw [merge, show existingWords (some value) = value.words from rfl, h, List.append_nil]

/-- In a merged text there are no other spaces. -/
theorem unwords_words_merge (existing : Option Text) (hwords : ∀ token ∈ tokens, IsWord token) :
    unwords (merge existing tokens).words = merge existing tokens := by
  rw [words_merge_of_isWord existing hwords, merge]

/-- Tokens that were merged are set in the text. Merging any of them again, in any order and number, gives
back this text character by character, and there is nothing to edit. -/
theorem merge_absorbs (hwords : ∀ token ∈ tokens, IsWord token) (hagain : again ⊆ tokens) :
    let merged := merge existing tokens
    (∀ token ∈ again, ∃ word ∈ merged.words, property word = property token) ∧
      merge (some merged) again = merged ∧ Edit.plan (.literal merged) again = none := by
  intro merged
  have hnil : additions merged.words again = [] := additions_words_merge hwords hagain
  refine ⟨additions_eq_nil_iff.mp hnil, ?_, Edit.plan_literal_of_additions_nil hnil⟩
  calc merge (some merged) again
      = unwords merged.words := merge_of_additions_nil hnil
    _ = merged := unwords_words_merge existing hwords

theorem merge_absorbs_repeated :
    let existing := some " bg-red-500\tp-2 ".toList
    let tokens := ["bg-blue-600".toList, "text-white".toList, "p-6".toList, "rounded-lg".toList]
    let again := ["rounded-lg".toList, "bg-blue-600".toList, "rounded-lg".toList]
    let merged := merge existing tokens
    (∀ token ∈ tokens, IsWord token) ∧ again ⊆ tokens ∧
      merged = "bg-red-500 p-2 text-white rounded-lg".toList ∧
      (∀ token ∈ again, ∃ word ∈ merged.words, property word = property token) ∧
      merge (some merged) again = merged ∧ Edit.plan (.literal merged) again = none := by
  intro existing tokens again merged
  have hwords : ∀ token ∈ tokens, IsWord token := by decide
  have hagain : again ⊆ tokens := by decide
  exact ⟨hwords, hagain, by decide, merge_absorbs hwords hagain⟩

/-! ## Edits -/

theorem words_merge_eq_self_iff (hwords : ∀ token ∈ tokens, IsWord token) :
    (merge (some value) tokens).words = value.words ↔ additions value.words tokens = [] := by
  rw [words_merge_of_isWord _ hwords]
  exact List.append_right_eq_self

theorem words_merge_none (hwords : ∀ token ∈ tokens, IsWord token) : (merge none tokens).words = tokens := by
  rw [words_merge_of_isWord _ hwords]
  exact additions_nil_left tokens

namespace Edit

/-- An edit goes with its kind of attribute, there is none exactly if no word would change, and no word of
the author's is lost: those of a literal value come first, those of a computed one last. -/
structure PlanSpec (current : Attribute) (tokens : List Text) : Prop where
  none_iff : plan current tokens = none ↔
    tokens = [] ∨ ∃ value, current = .literal value ∧ (merge (some value) tokens).words = value.words
  inserted : ∀ written, plan current tokens = some (.insert written) →
    current = .absent ∧ written.words = tokens
  replaced : ∀ written, plan current tokens = some (.replace written) →
    ∃ value added, current = .literal value ∧ written.words = value.words ++ added ∧ added ≠ [] ∧
      added.Sublist tokens
  prepended : ∀ front, plan current tokens = some (.prepend front) →
    current = .computed ∧ ∀ runtime : Text, (front ++ runtime).words = tokens ++ runtime.words

/-- Planning edits exactly where something changes, and keeps what the author wrote. -/
theorem planSpec_of_isWord (current : Attribute) (hwords : ∀ token ∈ tokens, IsWord token) :
    PlanSpec current tokens := by
  refine ⟨⟨?_, ?_⟩, ?_, ?_, ?_⟩
  · intro h
    cases PlanDerivation.of_plan h with
    | nothing => exact .inl rfl
    | settled hnil => exact .inr ⟨_, rfl, (words_merge_eq_self_iff hwords).mpr hnil⟩
  · rintro (rfl | ⟨value, rfl, hsame⟩)
    · exact plan_nil current
    · exact plan_literal_of_additions_nil ((words_merge_eq_self_iff hwords).mp hsame)
  · intro written h
    cases PlanDerivation.of_plan h with
    | insert => exact ⟨rfl, words_merge_none hwords⟩
  · intro written h
    cases PlanDerivation.of_plan h with
    | replace hadditions =>
        exact ⟨_, _, rfl, words_merge_of_isWord _ hwords, hadditions, List.filter_sublist⟩
  · intro front h
    cases PlanDerivation.of_plan h with
    | prepend =>
        refine ⟨rfl, fun runtime => ?_⟩
        -- the space that the text ends in keeps its last token from running into the value
        calc (merge none tokens ++ [' '] ++ runtime).words
            = (merge none tokens ++ ' ' :: runtime).words := by rw [List.append_assoc, List.singleton_append]
          _ = (merge none tokens).words ++ runtime.words := words_append_blank _ _ (by decide)
          _ = tokens ++ runtime.words := by rw [words_merge_none hwords]

theorem planSpec_of_irregular_spaces :
    let current := Attribute.literal "  shadow \tcard".toList
    let tokens := ["p-6".toList, "shadow-lg".toList]
    (∀ token ∈ tokens, IsWord token) ∧ plan current tokens = some (.replace "shadow card p-6".toList) ∧
      PlanSpec current tokens := by
  intro current tokens
  have hwords : ∀ token ∈ tokens, IsWord token := by decide
  exact ⟨hwords, by decide, planSpec_of_isWord current hwords⟩

end Edit

end ThemeCascade.ClassList
