import ThemeCascade.Proofs.Rule.Segmentation
import ThemeCascade.Rule.Parser

/-! # What a text is read as

The derivations say which rule stands for which segments. The parser follows them on every text
that has a segmentation, and each of its errors has an exact cause. -/

namespace ThemeCascade.Rule

open Segment

/-! ## Segments and their rules -/

/-- A class or an id, behind its mark. -/
inductive MarkedDerivation : Text → Target → Prop where
  | cls {name : Text} : name ≠ [] → MarkedDerivation ('.' :: name) (.cls name)
  | id {name : Text} : name ≠ [] → MarkedDerivation ('#' :: name) (.id name)

def IsMarked (segment : Text) : Prop := segment.head? = some '.' ∨ segment.head? = some '#'

/-- A mark that no name follows. -/
def IsBareMark (segment : Text) : Prop := segment = ['.'] ∨ segment = ['#']

/-- One rule for each way to read up to three segments. The first of two is looked at for its mark,
then for its tag; the first of three is a component whatever it looks like. -/
inductive RuleDerivation (isGlobal : Bool) : List Text → Rule → Prop where
  | paint (paintText) : RuleDerivation isGlobal [paintText] { isGlobal, paintText }
  | marked {segment target} (paintText) : MarkedDerivation segment target →
      RuleDerivation isGlobal [segment, paintText] { isGlobal, target := some target, paintText }
  | tag (tag : Tag) (paintText) :
      RuleDerivation isGlobal [tag.name, paintText]
        { isGlobal, target := some (.tag tag.name), paintText }
  | component {component} (paintText) : ¬ IsMarked component →
      (∀ tag : Tag, component ≠ tag.name) →
      RuleDerivation isGlobal [component, paintText]
        { isGlobal, component := some component, paintText }
  | componentMarked {segment target} (component paintText) : MarkedDerivation segment target →
      RuleDerivation isGlobal [component, segment, paintText]
        { isGlobal, component := some component, target := some target, paintText }
  | componentTag {name} (component paintText) : ¬ IsMarked name →
      RuleDerivation isGlobal [component, name, paintText]
        { isGlobal, component := some component, target := some (.tag name), paintText }

/-- The mark of a class or an id stands alone where the target is. -/
def LacksName : List Text → Prop
  | [mark, _] | [_, mark, _] => IsBareMark mark
  | _ => False

theorem MarkedDerivation.execution {segment : Text} {target : Target}
    (h : MarkedDerivation segment target) :
    Target.ofMarked? segment = some target ∧ target.isEmpty = false := by
  cases h with
  | cls hname => exact ⟨rfl, by simpa [Target.isEmpty] using hname⟩
  | id hname => exact ⟨rfl, by simpa [Target.isEmpty] using hname⟩

theorem ofMarked?_of_isBareMark {segment : Text} (h : IsBareMark segment) :
    ∃ target, Target.ofMarked? segment = some target ∧ target.isEmpty = true := by
  rcases h with rfl | rfl
  · exact ⟨.cls [], rfl, rfl⟩
  · exact ⟨.id [], rfl, rfl⟩

theorem ofMarked?_eq_none {segment : Text} (h : ¬ IsMarked segment) :
    Target.ofMarked? segment = none := by
  unfold Target.ofMarked?
  split
  · exact absurd (.inl rfl) h
  · exact absurd (.inr rfl) h
  · rfl

theorem isMarked_cases (segment : Text) :
    IsBareMark segment ∨ (∃ target, MarkedDerivation segment target) ∨ ¬ IsMarked segment := by
  by_cases h : IsMarked segment
  · cases segment with
    | nil => simp [IsMarked] at h
    | cons mark name =>
        by_cases hname : name = []
        · subst hname
          exact .inl (by simpa [IsMarked, IsBareMark] using h)
        · refine .inr (.inl ?_)
          simp only [IsMarked, List.head?_cons, Option.some.injEq] at h
          rcases h with rfl | rfl
          · exact ⟨_, .cls hname⟩
          · exact ⟨_, .id hname⟩
  · exact .inr (.inr h)

section

variable {text : Text} {isGlobal : Bool} {segments : List Text} {rule : Rule}

theorem RuleDerivation.execution (h : RuleDerivation isGlobal segments rule) :
    ofSegments text isGlobal segments = .ok rule := by
  cases h with
  | paint paintText => rfl
  | marked paintText hmarked =>
      simp [ofSegments, scopeOf, hmarked.execution]
  | tag tag paintText =>
      have hnone : Target.ofMarked? tag.name = none := by cases tag <;> rfl
      simp [ofSegments, scopeOf, hnone, Tag.ofName?_name, Target.isEmpty]
  | @component component paintText hmark htag =>
      have hnone : Tag.ofName? component = none := Tag.ofName?_eq_none_iff.mpr htag
      simp [ofSegments, scopeOf, ofMarked?_eq_none hmark, hnone]
  | componentMarked component paintText hmarked =>
      simp [ofSegments, hmarked.execution]
  | componentTag component paintText hmark =>
      simp [ofSegments, ofMarked?_eq_none hmark, Target.isEmpty]

theorem ofSegments_of_lacksName (h : LacksName segments) :
    ofSegments text isGlobal segments = .error (.emptyTarget text) := by
  unfold LacksName at h
  split at h
  · obtain ⟨target, hmarked, hempty⟩ := ofMarked?_of_isBareMark h
    simp [ofSegments, scopeOf, hmarked, hempty]
  · obtain ⟨target, hmarked, hempty⟩ := ofMarked?_of_isBareMark h
    simp [ofSegments, hmarked, hempty]
  · exact h.elim

theorem ofSegments_of_four_le (h : 4 ≤ segments.length) :
    ofSegments text isGlobal segments = .error (.tooManySegments text segments.length) := by
  match segments, h with
  | _ :: _ :: _ :: _ :: _, _ => rfl

/-- Segments have a rule, lack a name, or are too many. -/
theorem segments_cases (isGlobal : Bool) (h : segments ≠ []) :
    (∃ rule, RuleDerivation isGlobal segments rule) ∨ LacksName segments ∨ 4 ≤ segments.length := by
  match segments, h with
  | [paintText], _ => exact .inl ⟨_, .paint paintText⟩
  | [first, paintText], _ =>
      rcases isMarked_cases first with hbare | ⟨target, hmarked⟩ | hmark
      · exact .inr (.inl hbare)
      · exact .inl ⟨_, .marked paintText hmarked⟩
      · by_cases htag : ∃ tag : Tag, first = tag.name
        · obtain ⟨tag, rfl⟩ := htag
          exact .inl ⟨_, .tag tag paintText⟩
        · exact .inl ⟨_, .component paintText hmark (not_exists.mp htag)⟩
  | [component, target, paintText], _ =>
      rcases isMarked_cases target with hbare | ⟨target, hmarked⟩ | hmark
      · exact .inr (.inl hbare)
      · exact .inl ⟨_, .componentMarked component paintText hmarked⟩
      · exact .inl ⟨_, .componentTag component paintText hmark⟩
  | _ :: _ :: _ :: _ :: _, _ => exact .inr (.inr (by simp))

/-- What segments are read as: a rule, or the error that they call for. -/
inductive SegmentsDerivation (text : Text) (isGlobal : Bool) (segments : List Text) :
    Except RuleError Rule → Prop where
  | rule {rule : Rule} : RuleDerivation isGlobal segments rule →
      SegmentsDerivation text isGlobal segments (.ok rule)
  | emptyTarget : LacksName segments →
      SegmentsDerivation text isGlobal segments (.error (.emptyTarget text))
  | tooManySegments : 4 ≤ segments.length →
      SegmentsDerivation text isGlobal segments (.error (.tooManySegments text segments.length))

theorem segmentsDerivation_iff {result : Except RuleError Rule} (h : segments ≠ []) :
    SegmentsDerivation text isGlobal segments result ↔
      ofSegments text isGlobal segments = result := by
  constructor
  · intro hresult
    cases hresult with
    | rule hrule => exact hrule.execution
    | emptyTarget hlacks => exact ofSegments_of_lacksName hlacks
    | tooManySegments hmany => exact ofSegments_of_four_le hmany
  · rintro rfl
    rcases segments_cases isGlobal h with ⟨rule, hrule⟩ | hlacks | hmany
    · rw [hrule.execution]
      exact .rule hrule
    · rw [ofSegments_of_lacksName hlacks]
      exact .emptyTarget hlacks
    · rw [ofSegments_of_four_le hmany]
      exact .tooManySegments hmany

theorem ofSegments_eq_ok_iff (h : segments ≠ []) :
    ofSegments text isGlobal segments = .ok rule ↔ RuleDerivation isGlobal segments rule := by
  rw [← segmentsDerivation_iff h]
  constructor
  · intro hresult
    cases hresult with
    | rule hrule => exact hrule
  · exact .rule

theorem ofSegments_eq_emptyTarget_iff (h : segments ≠ []) :
    ofSegments text isGlobal segments = .error (.emptyTarget text) ↔ LacksName segments := by
  rw [← segmentsDerivation_iff h]
  constructor
  · intro hresult
    cases hresult with
    | emptyTarget hlacks => exact hlacks
  · exact .emptyTarget

theorem ofSegments_eq_tooManySegments_iff {count : Nat} (h : segments ≠ []) :
    ofSegments text isGlobal segments = .error (.tooManySegments text count) ↔
      segments.length = count ∧ 4 ≤ count := by
  rw [← segmentsDerivation_iff h]
  constructor
  · intro hresult
    cases hresult with
    | tooManySegments hmany => exact ⟨rfl, hmany⟩
  · rintro ⟨rfl, hmany⟩
    exact .tooManySegments hmany

end

/-! ## The whole text -/

/-- At most one mark is taken off the end of a text. -/
inductive MarkDerivation : Text → Text → Bool → Prop where
  | present (body) : MarkDerivation (body ++ ['*']) body true
  | absent {t} : t.getLast? ≠ some '*' → MarkDerivation t t false

theorem splitMark_derivation (t : Text) :
    MarkDerivation t (splitMark t).1 (splitMark t).2 := by
  cases h : t.dropLast? '*' with
  | none =>
      simp only [splitMark, h]
      exact .absent (Text.dropLast?_eq_none_iff.mp h)
  | some body =>
      have ht := Text.dropLast?_eq_some_iff.mp h
      simp only [splitMark, h]
      rw [ht]
      exact .present body

/-- The results of reading a text, by the segmentation of its body. -/
structure ParseSpec (t body : Text) (isGlobal : Bool) (result : Except RuleError Rule) : Prop where
  mark : MarkDerivation t.trim body isGlobal
  unique : ∀ first second, IsSegmentation body first → IsSegmentation body second → first = second
  empty_iff : result = .error .empty ↔ body = []
  malformed_iff : (∃ fault, result = .error (.malformed t.trim fault)) ↔
    body ≠ [] ∧ ∀ segments, ¬ IsSegmentation body segments
  tooManySegments_iff : ∀ count, result = .error (.tooManySegments t.trim count) ↔
    ∃ segments, IsSegmentation body segments ∧ segments.length = count ∧ 4 ≤ count
  emptyTarget_iff : result = .error (.emptyTarget t.trim) ↔
    ∃ segments, IsSegmentation body segments ∧ LacksName segments
  ok_iff : ∀ rule, result = .ok rule ↔
    ∃ segments, IsSegmentation body segments ∧ RuleDerivation isGlobal segments rule
  exhaustive : result = .error .empty ∨ (∃ fault, result = .error (.malformed t.trim fault)) ∨
    (∃ count, result = .error (.tooManySegments t.trim count)) ∨
    result = .error (.emptyTarget t.trim) ∨ ∃ rule, result = .ok rule

theorem parse_of_body_nil {t : Text} (h : (splitMark t.trim).1 = []) :
    parse t = .error .empty := by
  simp [parse, h]

theorem parse_of_isSegmentation {t : Text} {segments : List Text}
    (h : IsSegmentation (splitMark t.trim).1 segments) :
    parse t = ofSegments t.trim (splitMark t.trim).2 segments := by
  simp [parse, h.body_ne_nil, split_eq_ok_nil_iff.mpr h]

theorem parse_of_no_segmentation {t : Text} (hne : (splitMark t.trim).1 ≠ [])
    (h : ∀ segments, ¬ IsSegmentation (splitMark t.trim).1 segments) :
    ∃ fault, parse t = .error (.malformed t.trim fault) := by
  simp only [parse, if_neg hne]
  split
  · next fault _ => exact ⟨fault, rfl⟩
  · next segments hsplit => exact absurd (split_eq_ok_nil_iff.mp hsplit) (h segments)
  · next rest _ _ => exact ⟨⟨.leftOver, rest⟩, rfl⟩

/-- A text is read as a rule exactly if its body has segments, and they stand for the rule. -/
theorem parse_eq_ok_iff {t : Text} {rule : Rule} :
    parse t = .ok rule ↔ ∃ segments, IsSegmentation (splitMark t.trim).1 segments ∧
      RuleDerivation (splitMark t.trim).2 segments rule := by
  by_cases hs : ∃ segments, IsSegmentation (splitMark t.trim).1 segments
  · obtain ⟨segments, hs⟩ := hs
    rw [parse_of_isSegmentation hs, ofSegments_eq_ok_iff hs.nonempty, hs.exists_and_iff]
  · have hno := not_exists.mp hs
    refine iff_of_false ?_ fun ⟨segments, hsegments, _⟩ => hno segments hsegments
    intro hparse
    by_cases hbody : (splitMark t.trim).1 = []
    · simp [parse_of_body_nil hbody] at hparse
    · obtain ⟨fault, hmalformed⟩ := parse_of_no_segmentation hbody hno
      simp [hmalformed] at hparse

theorem parse_of_ruleDerivation {t body : Text} {isGlobal : Bool} {segments : List Text} {rule : Rule}
    (hmark : splitMark t.trim = (body, isGlobal)) (hs : IsSegmentation body segments)
    (hrule : RuleDerivation isGlobal segments rule) : parse t = .ok rule :=
  parse_eq_ok_iff.mpr ⟨segments, by rwa [hmark], by rwa [hmark]⟩

/-- With the segmentation at hand, every result is decided by the segments. -/
theorem parseSpec_of_isSegmentation {t body : Text} {isGlobal : Bool} {segments : List Text}
    (hmark : MarkDerivation t.trim body isGlobal) (h : IsSegmentation body segments) :
    ParseSpec t body isGlobal (ofSegments t.trim isGlobal segments) := by
  have hresult : SegmentsDerivation t.trim isGlobal segments (ofSegments t.trim isGlobal segments) :=
    (segmentsDerivation_iff h.nonempty).mpr rfl
  refine ⟨hmark, fun _ _ => IsSegmentation.unique, ?_, ?_, ?_, ?_, ?_, ?_⟩
  · refine iff_of_false ?_ h.body_ne_nil
    intro hempty
    rw [hempty] at hresult
    cases hresult
  · refine iff_of_false ?_ fun hnone => hnone.2 segments h
    rintro ⟨fault, hmalformed⟩
    rw [hmalformed] at hresult
    cases hresult
  · intro count
    rw [h.exists_and_iff, ofSegments_eq_tooManySegments_iff h.nonempty]
  · rw [h.exists_and_iff, ofSegments_eq_emptyTarget_iff h.nonempty]
  · intro rule
    rw [h.exists_and_iff, ofSegments_eq_ok_iff h.nonempty]
  · generalize ofSegments t.trim isGlobal segments = result at hresult
    cases hresult with
    | rule _ => exact .inr (.inr (.inr (.inr ⟨_, rfl⟩)))
    | emptyTarget _ => exact .inr (.inr (.inr (.inl rfl)))
    | tooManySegments _ => exact .inr (.inr (.inl ⟨_, rfl⟩))

/-- A text is read as the rule of its segments, and refused for the first thing that is wrong with
its body or its segments. -/
theorem parse_spec (t : Text) :
    ParseSpec t (splitMark t.trim).1 (splitMark t.trim).2 (parse t) := by
  have hmark := splitMark_derivation t.trim
  by_cases hs : ∃ segments, IsSegmentation (splitMark t.trim).1 segments
  · obtain ⟨segments, hs⟩ := hs
    rw [parse_of_isSegmentation hs]
    exact parseSpec_of_isSegmentation hmark hs
  · have hno := not_exists.mp hs
    by_cases hbody : (splitMark t.trim).1 = []
    · rw [parse_of_body_nil hbody]
      refine ⟨hmark, fun _ _ => IsSegmentation.unique, iff_of_true rfl hbody, ?_, ?_, ?_, ?_, .inl rfl⟩
      · simp [hbody]
      all_goals simp [hno]
    · obtain ⟨fault, hparse⟩ := parse_of_no_segmentation hbody hno
      rw [hparse]
      refine ⟨hmark, fun _ _ => IsSegmentation.unique, ?_, iff_of_true ⟨fault, rfl⟩ ⟨hbody, hno⟩,
        ?_, ?_, ?_, .inr (.inl ⟨fault, rfl⟩)⟩
      · simp [hbody]
      all_goals simp [hno]

end ThemeCascade.Rule
