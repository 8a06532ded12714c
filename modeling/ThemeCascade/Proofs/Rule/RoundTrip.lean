import ThemeCascade.Proofs.Rule.Semantics

/-! # Rules and their texts

Writing a rule that was read gives its text again, without the blanks around it. Reading a rule that
was written gives the rule again, provided that each of its parts can be told from the others. -/

namespace ThemeCascade.Rule

open Segment

/-! ## From the text to the rule and back -/

theorem MarkDerivation.text_eq {t body : Text} {isGlobal : Bool} (h : MarkDerivation t body isGlobal) :
    t = body ++ if isGlobal then ['*'] else [] := by
  cases h with
  | present body => rfl
  | absent _ => simp

theorem MarkDerivation.execution {t body : Text} {isGlobal : Bool}
    (h : MarkDerivation t body isGlobal) : splitMark t = (body, isGlobal) := by
  cases h with
  | present body => simp [splitMark, Text.dropLast?_eq_some_iff.mpr]
  | absent hlast => simp [splitMark, Text.dropLast?_eq_none_iff.mpr hlast]

/-- Whichever way the segments are read, the rule has kept all of them. -/
theorem RuleDerivation.segments_eq {isGlobal : Bool} {segments : List Text} {rule : Rule}
    (h : RuleDerivation isGlobal segments rule) :
    rule.segments = segments ∧ rule.isGlobal = isGlobal := by
  cases h with
  | paint paintText => exact ⟨rfl, rfl⟩
  | marked paintText hmarked => cases hmarked <;> exact ⟨rfl, rfl⟩
  | tag tag paintText => exact ⟨rfl, rfl⟩
  | component paintText hmark htag => exact ⟨rfl, rfl⟩
  | componentMarked component paintText hmarked => cases hmarked <;> exact ⟨rfl, rfl⟩
  | componentTag component paintText hmark => exact ⟨rfl, rfl⟩

theorem render_eq_trim {t : Text} {rule : Rule} (h : parse t = .ok rule) : rule.render = t.trim := by
  obtain ⟨segments, hs, hrule⟩ := parse_eq_ok_iff.mp h
  obtain ⟨hsegments, hglobal⟩ := hrule.segments_eq
  have hmark := (splitMark_derivation t.trim).text_eq
  calc rule.render
      = joined rule.segments ++ if rule.isGlobal then ['*'] else [] := rfl
    _ = (splitMark t.trim).1 ++ if (splitMark t.trim).2 then ['*'] else [] := by
        rw [hsegments, hglobal, hs.joined_eq]
    _ = t.trim := hmark.symm

theorem parse_trim (t : Text) : parse t.trim = parse t := by
  simp only [parse, (Text.isTrimmed_trim t).trim_eq]

/-- A rule that was read is written as its text was, and any other text of it is the same one with
other blanks around it. -/
structure WritingSpec (t : Text) (rule : Rule) : Prop where
  render_eq : rule.render = t.trim
  parse_render : parse rule.render = .ok rule
  padded : ∀ other, parse other = .ok rule →
    ∃ core, Text.IsPadded core t ∧ Text.IsPadded core other

theorem render_inverts_parse {t : Text} {rule : Rule} (h : parse t = .ok rule) :
    WritingSpec t rule := by
  have hrender := render_eq_trim h
  refine ⟨hrender, ?_, ?_⟩
  · rw [hrender, parse_trim, h]
  · intro other hother
    refine ⟨t.trim, Text.isPadded_trim t, ?_⟩
    have hsame : other.trim = t.trim := (render_eq_trim hother).symm.trans hrender
    exact hsame ▸ Text.isPadded_trim other

theorem render_inverts_parse_marked_component :
    parse "\t.nav:#main:[color:red]* ".toList =
        .ok ⟨true, some ".nav".toList, some (.id "main".toList), "[color:red]".toList⟩ ∧
      WritingSpec "\t.nav:#main:[color:red]* ".toList
        ⟨true, some ".nav".toList, some (.id "main".toList), "[color:red]".toList⟩ :=
  ⟨by cbv, render_inverts_parse (by cbv)⟩

/-! ## From the rule to its text and back -/

/-- A segment that no colon or bracket in it can break. -/
structure IsPlain (segment : Text) : Prop where
  ne_nil : segment ≠ []
  no_colon : ':' ∉ segment
  unopened : segment.head? ≠ some '['

/-- A segment that is read as one wherever it stands. -/
def IsSound (segment : Text) : Prop := IsPlain segment ∨ IsLiteral segment

theorem IsSound.ne_nil {segment : Text} (h : IsSound segment) : segment ≠ [] := by
  rcases h with hplain | ⟨content, -, rfl⟩
  · exact hplain.ne_nil
  · exact List.cons_ne_nil _ _

theorem IsSound.isSegment {segment : Text} (h : IsSound segment) (ahead : Text) :
    IsSegment segment ahead := by
  rcases h with hplain | hliteral
  · exact .inr ⟨hplain.no_colon, fun hopen => absurd hopen hplain.unopened⟩
  · exact .inl hliteral

theorem isSegmentation_joined {segments : List Text} (hne : segments ≠ [])
    (h : ∀ segment ∈ segments, IsSound segment) : IsSegmentation (joined segments) segments := by
  refine ⟨hne, rfl, fun segment hmem => (h segment hmem).ne_nil, ?_⟩
  intro segment further hsuffix
  exact (h segment (hsuffix.subset (by simp))).isSegment _

theorem getLast?_joined (front : List Text) {last : Text} (h : last ≠ []) :
    (joined (front ++ [last])).getLast? = last.getLast? := by
  induction front with
  | nil => simp
  | cons segment front ih =>
      rw [List.cons_append, joined_cons segment (by simp), List.getLast?_append, List.getLast?_cons, ih,
        List.getLast?_eq_some_getLast h]
      rfl

theorem isPlain_tagName (tag : Tag) : IsPlain tag.name :=
  ⟨by cases tag <;> decide, by cases tag <;> decide, by cases tag <;> decide⟩

theorem isPlain_mark_cons {mark : Char} {name : Text} (hmark : mark = '.' ∨ mark = '#')
    (hname : ':' ∉ name) : IsPlain (mark :: name) := by
  rcases hmark with rfl | rfl
  · exact ⟨by simp, by simpa using hname, by simp⟩
  · exact ⟨by simp, by simpa using hname, by simp⟩

/-- Each part of the rule is read as what it is. A tag is told from a component by being recognised, or
by standing behind one; a component alone must not look like a target. -/
structure IsWellFormed (rule : Rule) : Prop where
  paint : IsSound rule.paintText
  component : ∀ component, rule.component = some component → IsSound component
  cls : ∀ name, rule.target = some (.cls name) → name ≠ [] ∧ ':' ∉ name
  id : ∀ name, rule.target = some (.id name) → name ≠ [] ∧ ':' ∉ name
  tag : ∀ name, rule.target = some (.tag name) →
    if rule.component = none then ∃ tag : Tag, name = tag.name else IsSound name ∧ ¬ IsMarked name
  componentAlone : ∀ component, rule.component = some component → rule.target = none →
    (∀ tag : Tag, component ≠ tag.name) ∧ ¬ IsMarked component
  trimmed : rule.render.IsTrimmed
  unstarred : rule.isGlobal = false → rule.paintText.getLast? ≠ some '*'

theorem IsWellFormed.isSound_target {rule : Rule} (h : rule.IsWellFormed) {target : Target}
    (htarget : rule.target = some target) : IsSound target.render := by
  cases target with
  | tag name =>
      have htag := h.tag name htarget
      split at htag
      · obtain ⟨tag, rfl⟩ := htag
        exact .inl (isPlain_tagName tag)
      · exact htag.1
  | cls name => exact .inl (isPlain_mark_cons (.inl rfl) (h.cls name htarget).2)
  | id name => exact .inl (isPlain_mark_cons (.inr rfl) (h.id name htarget).2)

theorem IsWellFormed.isSound_segments {rule : Rule} (h : rule.IsWellFormed) :
    ∀ segment ∈ rule.segments, IsSound segment := by
  intro segment hmem
  simp only [segments, List.mem_append, Option.mem_toList, Option.map_eq_some_iff,
    List.mem_singleton, or_assoc] at hmem
  rcases hmem with hcomponent | ⟨target, htarget, rfl⟩ | rfl
  · exact h.component segment hcomponent
  · exact h.isSound_target htarget
  · exact h.paint

theorem IsWellFormed.mark {rule : Rule} (h : rule.IsWellFormed) :
    MarkDerivation rule.render (joined rule.segments) rule.isGlobal := by
  have hrender : rule.render = joined rule.segments ++ if rule.isGlobal then ['*'] else [] := rfl
  cases hglobal : rule.isGlobal with
  | true =>
      rw [hrender, hglobal]
      exact .present _
  | false =>
      have hlast : (joined rule.segments).getLast? = rule.paintText.getLast? :=
        getLast?_joined _ h.paint.ne_nil
      rw [hrender, hglobal, if_neg (by simp), List.append_nil]
      exact .absent (hlast ▸ h.unstarred hglobal)

theorem IsWellFormed.derivation {rule : Rule} (h : rule.IsWellFormed) :
    RuleDerivation rule.isGlobal rule.segments rule := by
  obtain ⟨isGlobal, component, target, paintText⟩ := rule
  cases component with
  | none =>
      rcases target with _ | (name | name | name)
      · exact .paint paintText
      · obtain ⟨tag, rfl⟩ : ∃ tag : Tag, name = tag.name := by simpa using h.tag name rfl
        exact .tag tag paintText
      · exact .marked paintText (.cls (h.cls name rfl).1)
      · exact .marked paintText (.id (h.id name rfl).1)
  | some component =>
      rcases target with _ | (name | name | name)
      · obtain ⟨htag, hmark⟩ := h.componentAlone component rfl rfl
        exact .component paintText hmark htag
      · have htag := h.tag name rfl
        rw [if_neg (by simp)] at htag
        exact .componentTag component paintText htag.2
      · exact .componentMarked component paintText (.cls (h.cls name rfl).1)
      · exact .componentMarked component paintText (.id (h.id name rfl).1)

theorem IsWellFormed.splitMark_render {rule : Rule} (h : rule.IsWellFormed) :
    splitMark rule.render.trim = (joined rule.segments, rule.isGlobal) := by
  rw [h.trimmed.trim_eq, h.mark.execution]

theorem IsWellFormed.isSegmentation {rule : Rule} (h : rule.IsWellFormed) :
    IsSegmentation (joined rule.segments) rule.segments :=
  isSegmentation_joined (by simp [segments]) h.isSound_segments

/-- Nothing in a well-formed rule is split again, swallowed or taken for something else. -/
theorem parse_inverts_render {rule : Rule} (h : rule.IsWellFormed) : parse rule.render = .ok rule :=
  parse_of_ruleDerivation h.splitMark_render h.isSegmentation h.derivation

theorem parse_inverts_render_brackets :
    let rule : Rule :=
      { isGlobal := true, component := some "[a:b]".toList, target := some (.cls "[c d".toList),
        paintText := "[e*:f]".toList }
    rule.IsWellFormed ∧ parse rule.render = .ok rule := by
  intro rule
  have h : rule.IsWellFormed := by
    refine ⟨.inr ⟨"e*:f".toList, by decide, rfl⟩, ?_, ?_, ?_, ?_, ?_, ?_, ?_⟩
    · rintro component ⟨⟩
      exact .inr ⟨"a:b".toList, by decide, rfl⟩
    · rintro name ⟨⟩
      decide
    · rintro name ⟨⟩
    · rintro name ⟨⟩
    · rintro component _ ⟨⟩
    · decide
    · decide
  exact ⟨h, parse_inverts_render h⟩

end ThemeCascade.Rule
