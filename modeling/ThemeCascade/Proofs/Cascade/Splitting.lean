import ThemeCascade.Proofs.Cascade.Paints
import ThemeCascade.Proofs.Cascade.Refinement
import ThemeCascade.Proofs.ClassList.Merging
import ThemeCascade.Proofs.Style.ClassTokens

/-! # Splitting a class list into its tokens

The tokens of a resolution, written into a new class list, are found in it again if each of them is a word.
A custom value with a blank is the only thing that can keep a token from being one. -/

namespace ThemeCascade

open Text

namespace ClassList.Edit

variable {tokens : List Text} {value : Text}

theorem words_of_insert (h : plan .absent tokens = some (.insert value)) :
    value.words = tokens.flatMap words := by
  rw [eq_merge_of_plan (.inl h), words_merge]
  simp [existingWords, Attribute.literal?]

end ClassList.Edit

namespace Configuration

variable {config : Configuration} {element : Element}

theorem ne_nil_of_mem_cascaded {token : Text} (h : token ∈ (config.cascaded element).tokens) :
    token ≠ [] := by
  obtain ⟨paintText, variant, -, htoken⟩ := exists_reaches_of_mem_cascaded h
  exact ne_nil_of_mem_tokens htoken

theorem isWord_or_breaks_of_mem_cascaded {token : Text}
    (h : token ∈ (config.cascaded element).tokens) :
    IsWord token ∨ ∃ paintText variant, config.Reaches element paintText variant ∧
      (Paint.ofText paintText).Breaks token := by
  obtain ⟨paintText, variant, hreaches, htoken⟩ := exists_reaches_of_mem_cascaded h
  exact (isWord_or_breaks_of_mem_tokens htoken).imp_right fun hbreaks =>
    ⟨paintText, variant, hreaches, hbreaks⟩

/-- No custom value that reaches the element has a blank. -/
def HasUnbrokenValues (config : Configuration) (element : Element) : Prop :=
  ∀ paintText variant value, config.Reaches element paintText variant →
    Paint.ofText paintText = .custom value → IsUnbroken value

theorem HasUnbrokenValues.isWord_of_mem {token : Text} (hunbroken : config.HasUnbrokenValues element)
    (h : token ∈ (config.cascaded element).tokens) : IsWord token := by
  refine (isWord_or_breaks_of_mem_cascaded h).resolve_right ?_
  rintro ⟨paintText, variant, hreaches, value, hpaint, hbroken, -⟩
  exact hbroken (hunbroken paintText variant value hreaches hpaint)

end Configuration

namespace Cascade

/-- A token is broken only by a custom value that it holds, of a paint that reaches the element. A new
class list splits into the tokens again exactly if none of them is broken. -/
structure SplitSpec (config : Configuration) (element : Element) (tokens : List Text) : Prop where
  ne_nil : ∀ token ∈ tokens, token ≠ []
  broken : ∀ token ∈ tokens, ¬ IsUnbroken token → ∃ paintText variant,
    config.Reaches element paintText variant ∧ (Paint.ofText paintText).Breaks token
  words_iff : ∀ value, ClassList.Edit.plan .absent tokens = some (.insert value) →
    (value.words = tokens ↔ ∀ token ∈ tokens, IsUnbroken token)
  unbroken : config.HasUnbrokenValues element → (∀ token ∈ tokens, IsUnbroken token) ∧
    ∀ value, ClassList.Edit.plan .absent tokens = some (.insert value) → value.words = tokens

theorem cascaded_splitSpec (config : Configuration) (element : Element) :
    SplitSpec config element (config.cascaded element).tokens := by
  have hne : ∀ token ∈ (config.cascaded element).tokens, token ≠ [] :=
    fun _ => Configuration.ne_nil_of_mem_cascaded
  have hwords : ∀ value,
      ClassList.Edit.plan .absent (config.cascaded element).tokens = some (.insert value) →
        (value.words = (config.cascaded element).tokens ↔
          ∀ token ∈ (config.cascaded element).tokens, IsUnbroken token) := by
    intro value hplan
    rw [ClassList.Edit.words_of_insert hplan, flatMap_words_eq_self_iff]
    exact forall₂_congr fun token htoken =>
      ⟨IsWord.unbroken, fun hunbroken => ⟨hne token htoken, hunbroken⟩⟩
  refine ⟨hne, ?_, hwords, ?_⟩
  · intro token htoken hbroken
    exact (Configuration.isWord_or_breaks_of_mem_cascaded htoken).resolve_left
      fun hword => hbroken hword.unbroken
  · intro hcustom
    have hunbroken : ∀ token ∈ (config.cascaded element).tokens, IsUnbroken token :=
      fun token htoken => (hcustom.isWord_of_mem htoken).unbroken
    exact ⟨hunbroken, fun value hplan => (hwords value hplan).mpr hunbroken⟩

/-- Whatever has been resolved before, the tokens that an element is given can be told apart in a class
list unless a custom value brings a blank with it. -/
theorem resolutionAfter_splits (config : Configuration) (earlier : List Element) (element : Element) :
    SplitSpec config element (resolutionAfter config earlier element).tokens := by
  rw [resolutionAfter_eq_cascaded]
  exact cascaded_splitSpec config element

/-- A custom value is written as it stands, so blanks in it break its token. -/
theorem spaced_paint_breaks_token :
    let config : Configuration := { rules := ["[oklch(0.7 0.2 180)]".toList] }
    let element : Element := { component := "Card".toList, tag := "a".toList }
    let tokens := (resolutionAfter config [] element).tokens
    let value := "[color:oklch(0.7 0.2 180)] hover:underline transition-colors".toList
    (∃ token ∈ tokens, ¬ IsUnbroken token) ∧
      ClassList.Edit.plan .absent tokens = some (.insert value) ∧ words value ≠ tokens := by
  decide +kernel

end Cascade

end ThemeCascade
