import ThemeCascade.Proofs.Rule.RoundTrip

/-! # Brackets in a rule

Brackets are looked for twice: by the splitter, which closes them at the first closing bracket, and in the text
of a paint, which they enclose from its first character to its last. A paint that a rule ends with is a custom
value for the one exactly if it is for the other. -/

namespace ThemeCascade

namespace Segment

/-- The splitter reads the last segment of the first text where the second one is what is left of it. -/
inductive ReadsLastAt : Text → Text → Prop where
  | here {t segment} : next t = .ok (segment, []) → ReadsLastAt t t
  | later {t segment tail last} : next t = .ok (segment, ':' :: tail) → ReadsLastAt tail last →
      ReadsLastAt t last

variable {t segment last value : Text} {front : List Text}

theorem IsSegmentation.readsLastAt (h : IsSegmentation t (front ++ [last])) : ReadsLastAt t last := by
  induction front generalizing t with
  | nil =>
      obtain ⟨hne, hsegment, rfl⟩ := isSegmentation_singleton.mp h
      exact .here (next_eq_ok_iff.mpr ⟨hne, by simp, hsegment, .inr (by simp)⟩)
  | cons segment front ih =>
      obtain ⟨hne, hsegment, tail, rfl, htail⟩ := (isSegmentation_cons (by simp)).mp h
      exact .later (next_eq_ok_iff.mpr ⟨hne, rfl, hsegment, .inr (by simp)⟩) (ih htail)

theorem IsSegmentation.isSegment_last (h : IsSegmentation t (front ++ [last])) : IsSegment last last := by
  simpa using h.isSegment last [] (List.suffix_append front [last])

theorem suffix_joined (front : List Text) (last : Text) : last <:+ joined (front ++ [last]) := by
  induction front with
  | nil => simp
  | cons segment front ih =>
      rw [List.cons_append, joined_cons segment (by simp)]
      exact ih.trans ((List.suffix_cons ..).trans (List.suffix_append ..))

theorem isLiteral_iff : IsLiteral ('[' :: (value ++ [']'])) ↔ ']' ∉ value := by
  constructor
  · rintro ⟨content, hcontent, heq⟩
    obtain rfl : value = content := by simpa using heq
    exact hcontent
  · intro hvalue
    exact ⟨value, hvalue, rfl⟩

/-- A segment that ends with a closing bracket is a literal, if it begins with an opening one. -/
theorem IsSegment.isLiteral (h : IsSegment ('[' :: (value ++ [']'])) ('[' :: (value ++ [']']))) :
    IsLiteral ('[' :: (value ++ [']'])) := by
  rcases h with hliteral | ⟨-, hopen⟩
  · exact hliteral
  · exact absurd (by simp) (hopen rfl)

theorem bracketed_self_iff (h : IsSegment segment segment) :
    bracketed segment = .ok ('[' :: (value ++ [']']), []) ↔ segment = '[' :: (value ++ [']']) := by
  rw [bracketed_eq_ok_iff, List.append_nil]
  constructor
  · exact And.right
  · rintro rfl
    exact ⟨h.isLiteral, rfl⟩

end Segment

namespace Rule

open Segment

variable {t value : Text} {rule : Rule}

theorem exists_isSegmentation_of_parse (h : parse t = .ok rule) :
    ∃ front, IsSegmentation (splitMark t.trim).1 (front ++ [rule.paintText]) := by
  obtain ⟨segments, hs, hrule⟩ := parse_eq_ok_iff.mp h
  exact ⟨_, (hrule.segments_eq.1 ▸ hs : IsSegmentation _ rule.segments)⟩

/-- The rule's paint is where its last segment was read, and is a custom value exactly if the bracketed form
read it, with that content. -/
structure PaintSpec (t : Text) (rule : Rule) : Prop where
  trim_eq : ∃ front, t.trim = front ++ rule.paintText ++ if rule.isGlobal then ['*'] else []
  readsLastAt : ReadsLastAt (splitMark t.trim).1 rule.paintText
  custom_iff : ∀ value, rule.paint = .custom value ↔
    value ≠ [] ∧ bracketed rule.paintText = .ok ('[' :: (value ++ [']']), [])
  unclosed : ∀ value, rule.paint = .custom value → ']' ∉ value

theorem paintSpec_of_parse (h : parse t = .ok rule) : PaintSpec t rule := by
  obtain ⟨front, hs⟩ := exists_isSegmentation_of_parse h
  have hlast : IsSegment rule.paintText rule.paintText := hs.isSegment_last
  refine ⟨?_, hs.readsLastAt, ?_, ?_⟩
  · obtain ⟨before, hbefore⟩ : rule.paintText <:+ joined rule.segments := suffix_joined ..
    refine ⟨before, ?_⟩
    rw [← render_eq_trim h, hbefore]
    rfl
  · intro value
    rw [paint, Paint.ofText_eq_custom_iff, bracketed_self_iff hlast]
  · intro value hvalue
    obtain ⟨-, hpaint⟩ := Paint.ofText_eq_custom_iff.mp hvalue
    rw [hpaint] at hlast
    exact isLiteral_iff.mp hlast.isLiteral

theorem getLast?_literal (value : Text) : ('[' :: (value ++ [']'])).getLast? = some ']' := by
  rw [← List.cons_append, List.getLast?_concat]

theorem isTrimmed_literal (value : Text) : Text.IsTrimmed ('[' :: (value ++ [']'])) := by
  rw [← List.cons_append]
  refine Text.isTrimmed_concat ?_ (by decide)
  rintro c ⟨⟩
  decide

theorem parse_literal (hvalue : ']' ∉ value) :
    parse ('[' :: (value ++ [']'])) = .ok { paintText := '[' :: (value ++ [']']) } := by
  refine parse_of_ruleDerivation ?_ (isSegmentation_singleton.mpr ⟨?_, ?_, rfl⟩) (.paint _)
  · rw [(isTrimmed_literal value).trim_eq]
    exact (MarkDerivation.absent (by simp [getLast?_literal])).execution
  · simp
  · exact .inl (isLiteral_iff.mpr hvalue)

/-- In every rule and for every value, the two agree on what brackets are. -/
theorem brackets_agree :
    (∀ t rule, parse t = .ok rule → PaintSpec t rule) ∧
      ∀ value : Text, (∃ rule, parse ('[' :: (value ++ [']'])) = .ok rule ∧ rule.paint = .custom value) ↔
        value ≠ [] ∧ ']' ∉ value := by
  refine ⟨fun _ _ => paintSpec_of_parse, fun value => ⟨?_, ?_⟩⟩
  · rintro ⟨rule, hparse, hpaint⟩
    exact ⟨(Paint.ofText_eq_custom_iff.mp hpaint).1, (paintSpec_of_parse hparse).unclosed value hpaint⟩
  · rintro ⟨hne, hvalue⟩
    exact ⟨_, parse_literal hvalue, Paint.ofText_eq_custom_iff.mpr ⟨hne, rfl⟩⟩

theorem brackets_agree_verbatim :
    Rule.parse ".nav:[a:b *[c]* ".toList = .ok ⟨true, none, some (.cls "nav".toList), "[a:b *[c]".toList⟩ ∧
      PaintSpec ".nav:[a:b *[c]* ".toList ⟨true, none, some (.cls "nav".toList), "[a:b *[c]".toList⟩ := by
  have hparse : Rule.parse ".nav:[a:b *[c]* ".toList =
      .ok ⟨true, none, some (.cls "nav".toList), "[a:b *[c]".toList⟩ := by decide +kernel
  exact ⟨hparse, brackets_agree.1 _ _ hparse⟩

end Rule

end ThemeCascade
