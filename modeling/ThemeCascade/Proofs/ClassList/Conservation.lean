import Mathlib.Data.List.Perm.Basic
import ThemeCascade.Proofs.ClassList.Merging

/-! # What merging keeps

The author's words stay as they are, and behind them stand the new tokens whose property no author's word
has. New tokens never leave one another out, so their order decides nothing but the order in which they are
written. -/

namespace ThemeCascade

open Text List

theorem eq_nil_iff_of_perm {α : Type} {l k : List α} (h : l ~ k) : l = [] ↔ k = [] := by
  rw [← length_eq_zero_iff, h.length_eq, length_eq_zero_iff]

namespace ClassList

/-- No existing token has the property of this one. -/
def IsFree (existing : List Text) (token : Text) : Prop :=
  ∀ other ∈ existing, property other ≠ property token

instance (existing : List Text) : DecidablePred (IsFree existing) :=
  fun token => List.decidableBAll (fun other => property other ≠ property token) existing

variable {existing new tokens tokens' : List Text}

theorem additions_eq_filter (existing new : List Text) :
    additions existing new = new.filter (IsFree existing ·) := by
  refine filter_congr fun token _ => ?_
  rw [Bool.eq_iff_iff, decide_eq_true_iff]
  simp [IsFree, sets_iff (hyphen_not_mem_property token)]

theorem additions_perm (h : tokens' ~ tokens) : additions existing tokens' ~ additions existing tokens :=
  h.filter _

/-- Splitting a merged text gives the author's words and then the pieces of the free tokens, each in order;
what tokens add to a merge does not depend on the new tokens before them. -/
theorem words_merge_eq (existing : Option Text) (new : List Text) :
    (merge existing new).words =
        existingWords existing ++ (new.filter (IsFree (existingWords existing) ·)).flatMap words ∧
      ∀ further, (merge existing (new ++ further)).words =
        (merge existing new).words ++
          (further.filter (IsFree (existingWords existing) ·)).flatMap words := by
  constructor
  · rw [words_merge, additions_eq_filter]
  · intro further
    rw [words_merge, words_merge, additions_eq_filter, additions_eq_filter, filter_append, flatMap_append,
      append_assoc]

/-! ## Tokens in another order -/

namespace Edit

/-- Edits of one kind, or none. The text of each begins with the author's words, and the words of its added
tokens follow. -/
inductive Counterparts (author added added' : List Text) : Option Edit → Option Edit → Prop where
  | none : Counterparts author added added' none none
  | insert {value value' : Text} : value.words = author ++ added.flatMap words →
      value'.words = author ++ added'.flatMap words →
      Counterparts author added added' (some (.insert value)) (some (.insert value'))
  | replace {value value' : Text} : value.words = author ++ added.flatMap words →
      value'.words = author ++ added'.flatMap words →
      Counterparts author added added' (some (.replace value)) (some (.replace value'))
  | prepend {value value' : Text} : value.words = author ++ added.flatMap words →
      value'.words = author ++ added'.flatMap words →
      Counterparts author added added' (some (.prepend value)) (some (.prepend value'))

theorem counterparts_plan (h : tokens' ~ tokens) (current : Attribute) :
    Counterparts (existingWords current.literal?)
      (additions (existingWords current.literal?) tokens)
      (additions (existingWords current.literal?) tokens') (plan current tokens)
      (plan current tokens') := by
  by_cases htokens : tokens = []
  · subst htokens
    rw [h.eq_nil, plan_nil]
    exact .none
  · have htokens' : tokens' ≠ [] := mt (eq_nil_iff_of_perm h).mp htokens
    cases current with
    | absent =>
        rw [plan_absent_of_ne_nil htokens, plan_absent_of_ne_nil htokens']
        exact .insert (words_merge none tokens) (words_merge none tokens')
    | literal value =>
        have hnil : additions value.words tokens' = [] ↔ additions value.words tokens = [] :=
          eq_nil_iff_of_perm (additions_perm h)
        by_cases hadditions : additions value.words tokens = []
        · rw [plan_literal_of_additions_nil hadditions, plan_literal_of_additions_nil (hnil.mpr hadditions)]
          exact .none
        · rw [plan_literal_of_additions_ne_nil hadditions,
            plan_literal_of_additions_ne_nil (mt hnil.mp hadditions)]
          exact .replace (words_merge (some value) tokens) (words_merge (some value) tokens')
    | computed =>
        have hspace : ∀ t : Text, words (t ++ [' ']) = words t := by
          intro t
          rw [words_append_blank t [] (by decide)]
          exact append_nil _
        rw [plan_computed_of_ne_nil htokens, plan_computed_of_ne_nil htokens']
        exact .prepend ((hspace _).trans (words_merge none tokens))
          ((hspace _).trans (words_merge none tokens'))

end Edit

end ClassList

end ThemeCascade
