import ThemeCascade.ClassList.Edit
import ThemeCascade.Proofs.Text.Runs
import ThemeCascade.Proofs.Text.Words

/-! # What merging leaves out

A new token is left out exactly if a token with its property is there already. After a merge every
token finds its property set, so merging the same tokens again changes nothing. -/

namespace ThemeCascade.ClassList

open Text

/-! ## Properties -/

theorem hyphen_not_mem_property (token : Text) : '-' ∉ property token := not_mem_takeWhile_ne '-' token

theorem property_eq_self {token : Text} (h : '-' ∉ token) : property token = token := by
  refine List.takeWhile_eq_self_iff.mpr fun c hc => ?_
  simpa using ne_of_mem_of_not_mem hc h

theorem property_append {name : Text} (h : '-' ∉ name) (rest : Text) :
    property (name ++ rest) = name ++ property rest := by
  refine List.takeWhile_append_of_pos fun c hc => ?_
  simpa using ne_of_mem_of_not_mem hc h

theorem property_append_hyphen {name : Text} (h : '-' ∉ name) (rest : Text) :
    property (name ++ '-' :: rest) = name :=
  takeWhile_ne_append h (by simp)

theorem eq_property_or_append (token : Text) :
    token = property token ∨ ∃ rest, token = property token ++ '-' :: rest := by
  have happend : property token ++ token.dropWhile (· ≠ '-') = token :=
    List.takeWhile_append_dropWhile
  cases hdrop : token.dropWhile (· ≠ '-') with
  | nil =>
      rw [hdrop, List.append_nil] at happend
      exact .inl happend.symm
  | cons c rest =>
      obtain rfl : c = '-' := head_dropWhile_ne (t := token) (by rw [hdrop]; rfl)
      exact .inr ⟨rest, by rw [← hdrop, happend]⟩

/-- A token sets its own property and no other one. -/
theorem sets_iff {name existing : Text} (h : '-' ∉ name) :
    sets name existing = true ↔ property existing = name := by
  simp only [sets, Bool.or_eq_true, decide_eq_true_eq, List.isPrefixOf_iff_prefix]
  constructor
  · rintro (rfl | ⟨rest, rfl⟩)
    · exact property_eq_self h
    · rw [List.append_assoc]
      exact property_append_hyphen h rest
  · rintro rfl
    rcases eq_property_or_append existing with hwhole | ⟨rest, hrest⟩
    · exact .inl hwhole
    · exact .inr ⟨rest, by simpa using hrest.symm⟩

/-! ## Additions -/

variable {existing new : List Text}

theorem mem_additions_iff {token : Text} :
    token ∈ additions existing new ↔
      token ∈ new ∧ ∀ other ∈ existing, property other ≠ property token := by
  simp [additions, sets_iff (hyphen_not_mem_property token)]

/-- A new token is left out by an existing one that has its property. -/
theorem not_mem_additions_iff {token : Text} (h : token ∈ new) :
    token ∉ additions existing new ↔ ∃ other ∈ existing, property other = property token := by
  simp [mem_additions_iff, h]

theorem additions_eq_nil_iff :
    additions existing new = [] ↔ ∀ token ∈ new, ∃ other ∈ existing, property other = property token := by
  simp only [List.eq_nil_iff_forall_not_mem, mem_additions_iff, not_and, not_forall, not_not,
    exists_prop]

theorem additions_eq_nil_of_subset {again : List Text} (h : additions existing new = [])
    (hagain : again ⊆ new) : additions existing again = [] := by
  rw [additions_eq_nil_iff] at h ⊢
  exact fun token htoken => h token (hagain htoken)

@[simp] theorem additions_nil_left (new : List Text) : additions [] new = new := by
  simp [additions]

/-- New tokens do not leave out one another. -/
theorem additions_append (existing new further : List Text) :
    additions existing (new ++ further) = additions existing new ++ additions existing further :=
  List.filter_append ..

/-- Every token's property is set by the token itself or by the one that kept it out. -/
theorem additions_append_additions (existing new : List Text) :
    additions (existing ++ additions existing new) new = [] := by
  rw [additions_eq_nil_iff]
  intro token hnew
  by_cases hset : ∃ other ∈ existing, property other = property token
  · obtain ⟨other, hother, hproperty⟩ := hset
    exact ⟨other, List.mem_append_left _ hother, hproperty⟩
  · have hadded : token ∈ additions existing new := mem_additions_iff.mpr ⟨hnew, by simpa using hset⟩
    exact ⟨token, List.mem_append_right _ hadded, rfl⟩

/-! ## Merged lists -/

theorem flatMap_words_existingWords (existing : Option Text) :
    (existingWords existing).flatMap words = existingWords existing := by
  cases existing with
  | none => rfl
  | some value => exact flatMap_words_eq_self fun _ hword => isWord_of_mem_words hword

/-- The words of the author stay, and the words of the additions follow. -/
theorem words_merge (existing : Option Text) (new : List Text) :
    (merge existing new).words =
      existingWords existing ++ (additions (existingWords existing) new).flatMap words := by
  rw [merge, words_unwords, List.flatMap_append, flatMap_words_existingWords]

theorem words_merge_of_isWord (existing : Option Text) (h : ∀ token ∈ new, IsWord token) :
    (merge existing new).words = existingWords existing ++ additions (existingWords existing) new := by
  rw [words_merge, flatMap_words_eq_self]
  exact fun token htoken => h token (mem_additions_iff.mp htoken).1

/-! ## Edits -/

namespace Edit

variable {tokens : List Text} {current : Attribute} {value : Text}

theorem plan_nil (current : Attribute) : plan current [] = none := rfl

theorem plan_absent_of_ne_nil (h : tokens ≠ []) :
    plan .absent tokens = some (.insert (merge none tokens)) := if_neg h

theorem plan_computed_of_ne_nil (h : tokens ≠ []) :
    plan .computed tokens = some (.prepend (merge none tokens ++ [' '])) := if_neg h

theorem plan_literal_of_additions_nil (h : additions value.words tokens = []) :
    plan (.literal value) tokens = none := by
  simp [plan, h]

theorem plan_literal_of_additions_ne_nil (h : additions value.words tokens ≠ []) :
    plan (.literal value) tokens = some (.replace (merge (some value) tokens)) := by
  have htokens : tokens ≠ [] := by
    rintro rfl
    exact h rfl
  simp [plan, h, htokens]

/-- How an edit is planned, by the attribute and what the tokens would add to it. -/
inductive PlanDerivation : Attribute → List Text → Option Edit → Prop where
  | nothing (current : Attribute) : PlanDerivation current [] none
  | insert {tokens : List Text} : tokens ≠ [] →
      PlanDerivation .absent tokens (some (.insert (merge none tokens)))
  | settled {value : Text} {tokens : List Text} : additions value.words tokens = [] →
      PlanDerivation (.literal value) tokens none
  | replace {value : Text} {tokens : List Text} : additions value.words tokens ≠ [] →
      PlanDerivation (.literal value) tokens (some (.replace (merge (some value) tokens)))
  | prepend {tokens : List Text} : tokens ≠ [] →
      PlanDerivation .computed tokens (some (.prepend (merge none tokens ++ [' '])))

theorem plan_derivation (current : Attribute) (tokens : List Text) :
    PlanDerivation current tokens (plan current tokens) := by
  by_cases htokens : tokens = []
  · subst htokens
    exact .nothing current
  · cases current with
    | absent =>
        rw [plan_absent_of_ne_nil htokens]
        exact .insert htokens
    | literal value =>
        by_cases hadditions : additions value.words tokens = []
        · rw [plan_literal_of_additions_nil hadditions]
          exact .settled hadditions
        · rw [plan_literal_of_additions_ne_nil hadditions]
          exact .replace hadditions
    | computed =>
        rw [plan_computed_of_ne_nil htokens]
        exact .prepend htokens

theorem PlanDerivation.of_plan {edit : Option Edit} (h : plan current tokens = edit) :
    PlanDerivation current tokens edit := h ▸ plan_derivation current tokens

/-- A text that is written as a whole is the merged one. -/
theorem eq_merge_of_plan
    (h : plan current tokens = some (.insert value) ∨ plan current tokens = some (.replace value)) :
    value = merge current.literal? tokens := by
  rcases h with hinsert | hreplace
  · cases PlanDerivation.of_plan hinsert with
    | insert => rfl
  · cases PlanDerivation.of_plan hreplace with
    | replace => rfl

/-- Planning the same tokens for the text that was written asks for no edit. -/
theorem plan_literal_of_plan (htokens : ∀ token ∈ tokens, IsWord token)
    (h : plan current tokens = some (.insert value) ∨ plan current tokens = some (.replace value)) :
    plan (.literal value) tokens = none := by
  apply plan_literal_of_additions_nil
  rw [eq_merge_of_plan h, words_merge_of_isWord _ htokens]
  exact additions_append_additions _ _

end Edit

end ThemeCascade.ClassList
