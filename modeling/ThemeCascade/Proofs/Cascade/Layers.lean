import ThemeCascade.Proofs.Cascade.DarkOverlay
import ThemeCascade.Proofs.ClassList.Conservation

/-! # Light and dark tokens in one class list

The qualifier of dark mode has no hyphen, so the property of a token keeps it. An author's word for dark mode
can leave out dark tokens only and any other word light tokens only: each of the two layers is merged as if
the other were not there. -/

namespace ThemeCascade

open Text

namespace ClassList

/-! ## Properties and the qualifier -/

theorem isQualified_property_iff {token : Text} : IsQualified (property token) ↔ IsQualified token := by
  constructor
  · intro h
    exact h.trans (List.takeWhile_prefix _)
  · rintro ⟨rest, rfl⟩
    rw [property_append (by decide)]
    exact isQualified_append _

theorem isQualified_congr {token other : Text} (h : property other = property token) :
    IsQualified other ↔ IsQualified token := by
  rw [← isQualified_property_iff, h, isQualified_property_iff]

/-! ## Additions to one layer -/

/-- Of the author's words only those of a kind play a part, if every word that shares its property with a new
token is of it. -/
theorem additions_filter (author : List Text) {new : List Text} (kind : Text → Prop) [DecidablePred kind]
    (h : ∀ token ∈ new, ∀ word, property word = property token → kind word) :
    additions (author.filter (kind ·)) new = additions author new := by
  rw [additions_eq_filter, additions_eq_filter]
  refine List.filter_congr fun token htoken => decide_eq_decide.mpr ⟨?_, ?_⟩
  · intro hfree word hword hproperty
    have hkind : kind word := h token htoken word hproperty
    exact hfree word (List.mem_filter.mpr ⟨hword, decide_eq_true hkind⟩) hproperty
  · intro hfree word hword
    exact hfree word (List.mem_filter.mp hword).1

/-- So what leaves out a new token is of the kind. -/
theorem not_mem_additions_iff_of_kind {author new : List Text} {token : Text} {kind : Text → Prop}
    (hnew : token ∈ new) (h : ∀ word, property word = property token → kind word) :
    token ∉ additions author new ↔ ∃ word ∈ author, kind word ∧ property word = property token := by
  rw [not_mem_additions_iff hnew]
  exact exists_congr fun word => and_congr_right fun _ => (and_iff_right_of_imp (h word)).symm

end ClassList

namespace Configuration

open ClassList

variable {config : Configuration} {element : Element} {word token : Text}

theorem not_isQualified_of_property_eq (h : token ∈ config.lightTokens element)
    (hproperty : property word = property token) : ¬ IsQualified word :=
  fun hword => not_isQualified_of_mem_lightTokens h ((isQualified_congr hproperty).mp hword)

theorem isQualified_of_property_eq (h : token ∈ config.darkTokens element)
    (hproperty : property word = property token) : IsQualified word :=
  (isQualified_congr hproperty).mpr (isQualified_of_mem_darkTokens h)

end Configuration

open ThemeCascade.Configuration

namespace Cascade

open ClassList

/-- The tokens of an element are a light layer and a dark one. Merged into the author's words, a light token
is left out by a word without the qualifier and a dark one by a word with it, and what is added is what each
layer adds to the words of its own kind. -/
structure LayerSpec (config : Configuration) (element : Element) (value : Text) (tokens : List Text) :
    Prop where
  tokens_eq : tokens = config.lightTokens element ++ config.darkTokens element
  merge_eq : merge (some value) tokens =
    unwords (value.words ++
      additions (value.words.filter (¬ IsQualified ·)) (config.lightTokens element) ++
      additions (value.words.filter (IsQualified ·)) (config.darkTokens element))
  light_dropped_iff : ∀ token ∈ config.lightTokens element,
    token ∉ additions value.words tokens ↔
      ∃ word ∈ value.words, ¬ IsQualified word ∧ property word = property token
  dark_dropped_iff : ∀ token ∈ config.darkTokens element,
    token ∉ additions value.words tokens ↔
      ∃ word ∈ value.words, IsQualified word ∧ property word = property token

/-- Light and dark tokens are merged independently, whatever the author wrote and whatever the paints hold. -/
theorem resolutionAfter_layers (config : Configuration) (earlier : List Element) (element : Element)
    (value : Text) :
    LayerSpec config element value (resolutionAfter config earlier element).tokens := by
  rw [resolutionAfter_eq_cascaded, cascaded_tokens]
  refine ⟨rfl, ?_, ?_, ?_⟩
  · have hlight : additions (value.words.filter (¬ IsQualified ·)) (config.lightTokens element) =
        additions value.words (config.lightTokens element) :=
      additions_filter _ (¬ IsQualified ·) fun _ htoken _ => not_isQualified_of_property_eq htoken
    have hdark : additions (value.words.filter (IsQualified ·)) (config.darkTokens element) =
        additions value.words (config.darkTokens element) :=
      additions_filter _ IsQualified fun _ htoken _ => isQualified_of_property_eq htoken
    rw [hlight, hdark, List.append_assoc, ← additions_append]
    rfl
  · intro token htoken
    exact not_mem_additions_iff_of_kind (List.mem_append_left _ htoken)
      fun _ => not_isQualified_of_property_eq htoken
  · intro token htoken
    exact not_mem_additions_iff_of_kind (List.mem_append_right _ htoken)
      fun _ => isQualified_of_property_eq htoken

end Cascade

end ThemeCascade
