import Mathlib.Data.List.Basic
import ThemeCascade.Text.Basic

/-! # Words

A text is split at its blanks into words. Joining texts by spaces and splitting again gives their words in
order, and so gives back the texts exactly if each of them is a word. -/

namespace ThemeCascade.Text

def IsUnbroken (t : Text) : Prop := ∀ c ∈ t, isBlank c = false

-- Only the text is searched: an instance that was inferred could go through all characters.
instance (t : Text) : Decidable (IsUnbroken t) := List.decidableBAll (isBlank · = false) t

/-- A text that is written between blanks as a whole. -/
structure IsWord (t : Text) : Prop where
  ne_nil : t ≠ []
  unbroken : IsUnbroken t

instance (t : Text) : Decidable (IsWord t) :=
  decidable_of_iff (t ≠ [] ∧ IsUnbroken t) ⟨fun h => ⟨h.1, h.2⟩, fun h => ⟨h.ne_nil, h.unbroken⟩⟩

variable {t : Text}

@[simp] theorem isUnbroken_nil : IsUnbroken [] := List.forall_mem_nil _

@[simp] theorem isUnbroken_append {t u : Text} :
    IsUnbroken (t ++ u) ↔ IsUnbroken t ∧ IsUnbroken u := List.forall_mem_append

@[simp] theorem isUnbroken_cons {c : Char} {t : Text} :
    IsUnbroken (c :: t) ↔ isBlank c = false ∧ IsUnbroken t := List.forall_mem_cons

/-! ## The words of a text -/

theorem eq_false_of_mem_splitOnP {p : Char → Bool} {piece : Text} (h : piece ∈ t.splitOnP p) :
    ∀ c ∈ piece, p c = false := by
  induction t generalizing piece with
  | nil =>
      obtain rfl : piece = [] := by simpa using h
      simp
  | cons c t ih =>
      rw [List.splitOnP_cons_eq_if_modifyHead] at h
      split at h
      · rcases List.mem_cons.mp h with rfl | h
        · simp
        · exact ih h
      · next hc =>
        obtain ⟨first, rest, hsplit⟩ := List.exists_cons_of_ne_nil (List.splitOnP_ne_nil p t)
        rw [hsplit, List.modifyHead_cons] at h
        rcases List.mem_cons.mp h with rfl | h
        · exact List.forall_mem_cons.mpr ⟨by simpa using hc, ih (by simp [hsplit])⟩
        · exact ih (by simp [hsplit, h])

theorem isWord_of_mem_words {word : Text} (h : word ∈ words t) : IsWord word := by
  obtain ⟨hpiece, hne⟩ := List.mem_filter.mp h
  exact ⟨by simpa using hne, eq_false_of_mem_splitOnP hpiece⟩

theorem IsWord.words_eq (h : IsWord t) : words t = [t] := by
  rw [words, List.splitOnP_eq_singleton h.unbroken]
  simp [h.ne_nil]

/-- A blank ends the word before it. -/
theorem words_append_blank (t u : Text) {c : Char} (h : isBlank c = true) :
    words (t ++ c :: u) = words t ++ words u := by
  rw [words, List.splitOnP_append_cons t u h, List.filter_append]
  rfl

/-! ## Words where they stand -/

/-- The word stands in the text between blanks, or at an end of the text. -/
inductive StandsIn (word : Text) : Text → Prop where
  | intro {before after : Text} : IsWord word → (∀ c ∈ before.getLast?, isBlank c = true) →
      (∀ c ∈ after.head?, isBlank c = true) → StandsIn word (before ++ word ++ after)

variable {word run : Text}

theorem StandsIn.self (h : IsWord word) : StandsIn word word := by
  simpa using @StandsIn.intro word [] [] h (by simp) (by simp)

theorem StandsIn.before_blank (h : IsWord word) {c : Char} (hc : isBlank c = true) (u : Text) :
    StandsIn word (word ++ c :: u) :=
  @StandsIn.intro word [] (c :: u) h (by simp) (by simpa using hc)

theorem StandsIn.behind_blank {u : Text} (h : StandsIn word u) (t : Text) {c : Char}
    (hc : isBlank c = true) : StandsIn word (t ++ c :: u) := by
  cases h with
  | @intro before after hword hbefore hafter =>
      have hlast : ∀ d ∈ (t ++ c :: before).getLast?, isBlank d = true := by
        rcases List.eq_nil_or_concat before with rfl | ⟨front, e, rfl⟩
        · simpa using hc
        · have hend : t ++ c :: front.concat e = (t ++ c :: front) ++ [e] := by simp
          rw [hend, List.getLast?_concat]
          simpa using hbefore
      simpa using StandsIn.intro hword hlast hafter

theorem StandsIn.mem_words (h : StandsIn word t) : word ∈ words t := by
  cases h with
  | @intro before after hword hbefore hafter =>
      have hmem : word ∈ words (word ++ after) := by
        cases after with
        | nil => simp [hword.words_eq]
        | cons c after => simp [words_append_blank word after (hafter c rfl), hword.words_eq]
      rw [List.append_assoc]
      rcases List.eq_nil_or_concat before with rfl | ⟨front, c, rfl⟩
      · exact hmem
      · rw [List.concat_eq_append, List.append_assoc, List.singleton_append,
          words_append_blank _ _ (hbefore c (by simp))]
        exact List.mem_append_right _ hmem

theorem eq_of_mem_words_of_isUnbroken (hrun : IsUnbroken run) (h : word ∈ words run) : word = run := by
  by_cases hnil : run = []
  · simp [hnil, words] at h
  · simpa [IsWord.words_eq ⟨hnil, hrun⟩] using h

/-- The characters since the last blank are kept apart as a run that the induction can lengthen. -/
theorem standsIn_of_mem_words_append (hrun : IsUnbroken run) (h : word ∈ words (run ++ t)) :
    StandsIn word (run ++ t) := by
  induction t generalizing run with
  | nil =>
      rw [List.append_nil] at h ⊢
      rw [← eq_of_mem_words_of_isUnbroken hrun h]
      exact .self (isWord_of_mem_words h)
  | cons c t ih =>
      cases hc : isBlank c with
      | true =>
          rw [words_append_blank _ _ hc] at h
          rcases List.mem_append.mp h with hfirst | hlater
          · rw [← eq_of_mem_words_of_isUnbroken hrun hfirst]
            exact .before_blank (isWord_of_mem_words hfirst) hc t
          · have hstands : StandsIn word t := ih isUnbroken_nil hlater
            exact hstands.behind_blank run hc
      | false =>
          have hlonger : IsUnbroken (run ++ [c]) := by simpa using ⟨hrun, hc⟩
          have hsplit : run ++ c :: t = run ++ [c] ++ t := by simp
          rw [hsplit] at h ⊢
          exact ih hlonger h

theorem mem_words_iff : word ∈ words t ↔ StandsIn word t :=
  ⟨standsIn_of_mem_words_append isUnbroken_nil, StandsIn.mem_words⟩

example : words "\ta  b\u00a0c ".toList = ["a".toList, "b".toList, "c".toList] := by decide

theorem words_append_ne_nil (hrun : IsWord run) (t : Text) : words (run ++ t) ≠ [] := by
  induction t generalizing run with
  | nil => simp [hrun.words_eq]
  | cons c t ih =>
      cases hc : isBlank c with
      | true => simp [words_append_blank run t hc, hrun.words_eq]
      | false =>
          have hlonger : IsWord (run ++ [c]) := ⟨by simp, by simpa using ⟨hrun.unbroken, hc⟩⟩
          simpa using ih hlonger

/-- Every character that is no blank belongs to a word. -/
theorem words_eq_nil_iff : words t = [] ↔ ∀ c ∈ t, isBlank c = true := by
  induction t with
  | nil => simp [words]
  | cons c t ih =>
      cases hc : isBlank c with
      | true =>
          have hwords : words (c :: t) = words t := words_append_blank [] t hc
          simp [hwords, ih, hc]
      | false =>
          have hword : IsWord [c] := ⟨by simp, by simpa using hc⟩
          exact iff_of_false (words_append_ne_nil hword t) (by simp [hc])

/-! ## Joining words -/

theorem words_unwords (l : List Text) : words (unwords l) = l.flatMap words := by
  induction l with
  | nil => rfl
  | cons t l ih =>
      by_cases hl : l = []
      · subst hl
        simp [unwords]
      · have hjoin : unwords (t :: l) = t ++ ' ' :: unwords l := by
          simp [unwords, List.intercalate_cons_of_ne_nil hl]
        rw [hjoin, words_append_blank t _ (by decide), ih, List.flatMap_cons]

theorem flatMap_words_eq_self {l : List Text} (h : ∀ t ∈ l, IsWord t) : l.flatMap words = l := by
  calc l.flatMap words = l.flatMap fun t => [t] :=
        List.flatMap_congr fun t ht => (h t ht).words_eq
    _ = l := List.flatMap_singleton' l

theorem flatMap_words_eq_self_iff {l : List Text} : l.flatMap words = l ↔ ∀ t ∈ l, IsWord t := by
  refine ⟨?_, flatMap_words_eq_self⟩
  intro hl t ht
  rw [← hl] at ht
  obtain ⟨source, -, hword⟩ := List.mem_flatMap.mp ht
  exact isWord_of_mem_words hword

end ThemeCascade.Text
