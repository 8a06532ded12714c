import Mathlib.Data.List.Range
import ThemeCascade.Cascade
import ThemeCascade.Log
import ThemeCascade.Proofs.Rule.Book
import ThemeCascade.Rule.Reading

/-! # Every text is accounted for

Reading a list of texts one by one makes the book of the whole list. Each text has one entry in it, at
its position, and each rejection is logged once, in its turn. -/

namespace ThemeCascade.RuleBook

/-! ## One text after the other -/

theorem append_assoc (first second third : RuleBook) :
    first ++ second ++ third = first ++ (second ++ third) := by
  change RuleBook.mk _ _ = RuleBook.mk _ _
  simp only [rules_append, rejections_append, List.append_assoc]

theorem append_empty (book : RuleBook) : book ++ (⟨[], []⟩ : RuleBook) = book := by
  change RuleBook.mk _ _ = book
  rw [List.append_nil, List.append_nil]

/-- A text adds its one entry to the end of the book, and a rejection to the log. -/
theorem run_enter (entry : Text × Nat) (book : RuleBook) :
    (enter entry).run book =
      ⟨(), (ofEntries [entry]).rejections.map .ruleSkipped, book ++ ofEntries [entry]⟩ := by
  obtain ⟨text, index⟩ := entry
  change enter (text, index) book = Outcome.mk _ _ (RuleBook.mk _ _)
  cases h : Rule.parse text with
  | ok rule => simp [enter, h, ofEntries_singleton_of_ok h]
  | error error => simp [enter, h, ofEntries_singleton_of_error h]

/-- The induction is along the texts that are still to be read; what is in the book already stays in
front. -/
theorem run_forM_enter (entries : List (Text × Nat)) (book : RuleBook) :
    (entries.forM enter).run book =
      ⟨(), (ofEntries entries).rejections.map .ruleSkipped, book ++ ofEntries entries⟩ := by
  induction entries generalizing book with
  | nil =>
      rw [show ofEntries [] = ⟨[], []⟩ from rfl, append_empty]
      rfl
  | cons entry entries ih =>
      rw [ofEntries_cons, rejections_append, List.map_append, ← append_assoc]
      simp only [List.forM_eq_forM] at ih ⊢
      rw [List.forM_cons, Traced.run_bind]
      simp only [run_enter, ih]

theorem run_enterAll (texts : List Text) :
    (enterAll texts).run {} =
      ⟨(), (ofTexts texts).rejections.map .ruleSkipped, ofTexts texts⟩ :=
  run_forM_enter texts.zipIdx {}

/-! ## Positions -/

/-- The positions of a book, those of its rules first. -/
def indices (book : RuleBook) : List Nat :=
  book.rules.map Prod.fst ++ book.rejections.map Rejection.index

/-- Every text has one entry, among the rules or among the rejections. -/
theorem indices_ofEntries_perm (entries : List (Text × Nat)) :
    (ofEntries entries).indices.Perm (entries.map Prod.snd) := by
  induction entries with
  | nil => rfl
  | cons entry entries ih =>
      obtain ⟨text, index⟩ := entry
      rw [ofEntries_cons, List.map_cons]
      cases h : Rule.parse text with
      | ok rule =>
          rw [ofEntries_singleton_of_ok h]
          exact ih.cons index
      | error error =>
          rw [ofEntries_singleton_of_error h]
          exact List.perm_middle.trans (ih.cons index)

/-- Rules and rejections keep the order of the texts. -/
theorem indices_ofEntries_sublist (entries : List (Text × Nat)) :
    ((ofEntries entries).rules.map Prod.fst).Sublist (entries.map Prod.snd) ∧
      ((ofEntries entries).rejections.map Rejection.index).Sublist (entries.map Prod.snd) := by
  induction entries with
  | nil => exact ⟨List.Sublist.refl _, List.Sublist.refl _⟩
  | cons entry entries ih =>
      obtain ⟨text, index⟩ := entry
      obtain ⟨hrules, hrejections⟩ := ih
      rw [ofEntries_cons, List.map_cons]
      cases h : Rule.parse text with
      | ok rule =>
          rw [ofEntries_singleton_of_ok h]
          exact ⟨hrules.cons_cons index, hrejections.cons index⟩
      | error error =>
          rw [ofEntries_singleton_of_error h]
          exact ⟨hrules.cons index, hrejections.cons_cons index⟩

theorem map_snd_zipIdx_eq_range (texts : List Text) :
    texts.zipIdx.map Prod.snd = List.range texts.length := by
  rw [List.zipIdx_map_snd, List.range_eq_range']

theorem indices_ofTexts_perm (texts : List Text) :
    (ofTexts texts).indices.Perm (List.range texts.length) := by
  rw [← map_snd_zipIdx_eq_range]
  exact indices_ofEntries_perm texts.zipIdx

theorem indices_ofTexts_increasing (texts : List Text) :
    ((ofTexts texts).rules.map Prod.fst).Pairwise (· < ·) ∧
      ((ofTexts texts).rejections.map Rejection.index).Pairwise (· < ·) := by
  obtain ⟨hrules, hrejections⟩ := indices_ofEntries_sublist texts.zipIdx
  rw [map_snd_zipIdx_eq_range] at hrules hrejections
  exact ⟨List.pairwise_lt_range.sublist hrules, List.pairwise_lt_range.sublist hrejections⟩

/-! ## The whole list -/

/-- What reading a list of texts leaves behind. Each position has one entry: the rule that its text is
read as, or the text as it was written, rejected with its error. The log holds the rejections in their
order, and a cascade of these texts has the book and gives these warnings. -/
structure AccountSpec (texts : List Text) (outcome : Outcome RuleBook Unit) : Prop where
  indices_perm : outcome.memory.indices.Perm (List.range texts.length)
  mem_rules : ∀ index rule, (index, rule) ∈ outcome.memory.rules ↔
    ∃ text, texts[index]? = some text ∧ Rule.parse text = .ok rule
  mem_rejections : ∀ rejection, rejection ∈ outcome.memory.rejections ↔
    texts[rejection.index]? = some rejection.text ∧ Rule.parse rejection.text = .error rejection.error
  rules_increasing : (outcome.memory.rules.map Prod.fst).Pairwise (· < ·)
  rejections_increasing : (outcome.memory.rejections.map Rejection.index).Pairwise (· < ·)
  events_eq : outcome.events = outcome.memory.rejections.map .ruleSkipped
  append_eq : ∀ later, ((enterAll (texts ++ later)).run {}).memory =
    outcome.memory ++ ((enterAll later).run {}).memory.moved (texts.length + ·)
  book_eq : ∀ config : Configuration, config.rules = texts →
    (Cascade.ofConfiguration config).book = outcome.memory
  warnings_eq : ∀ config : Configuration, config.rules = texts →
    (Cascade.ofConfiguration config).opening.filter (·.level = .warn) = outcome.events

/-- Reading loses no text and enters none twice, whichever of them are rules. -/
theorem enterAll_accounts (texts : List Text) : AccountSpec texts ((enterAll texts).run {}) := by
  have hlevel (rejections : List Rejection) :
      (rejections.map Event.ruleSkipped).filter (·.level = .warn) = rejections.map .ruleSkipped := by
    simp [List.filter_eq_self, Event.level]
  rw [run_enterAll]
  obtain ⟨hrules, hrejections⟩ := indices_ofTexts_increasing texts
  refine ⟨indices_ofTexts_perm texts, fun _ _ => mem_rules_iff, fun _ => mem_rejections_iff,
    hrules, hrejections, rfl, ?_, ?_, ?_⟩
  · intro later
    rw [run_enterAll, run_enterAll]
    exact ofTexts_append texts later
  · rintro config rfl
    rfl
  · rintro config rfl
    rw [Cascade.opening, Cascade.skipped, List.filter_append, hlevel]
    simp [Event.level, Cascade.ofConfiguration]

end ThemeCascade.RuleBook
