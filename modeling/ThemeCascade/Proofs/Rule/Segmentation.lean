import Mathlib.Data.List.Basic
import ThemeCascade.Proofs.Text.Runs
import ThemeCascade.Rule.Segment

/-! # Segmentations of a rule

The segments of a text are specified by their shape and the colons between them, without the
splitter. The derivations connect this grammar to the splitter, which shows what it leaves over and
that a text has at most one segmentation. -/

namespace ThemeCascade.Segment

open Text

/-! ## The grammar -/

/-- A text without a closing bracket, between brackets. -/
def IsLiteral (segment : Text) : Prop :=
  ∃ content : Text, ']' ∉ content ∧ segment = '[' :: (content ++ [']'])

/-- A segment may be a bracketed literal or a text without a colon. Such a text begins with an opening
bracket only if there is no closing one in `ahead`, which is everything from its start on. -/
def IsSegment (segment ahead : Text) : Prop :=
  IsLiteral segment ∨ (':' ∉ segment ∧ (segment.head? = some '[' → ']' ∉ ahead))

theorem IsSegment.head?_ne_colon {segment ahead : Text} (h : IsSegment segment ahead) :
    segment.head? ≠ some ':' := by
  intro hhead
  obtain ⟨tail, rfl⟩ := List.head?_eq_some_iff.mp hhead
  rcases h with ⟨content, -, hliteral⟩ | ⟨hcolon, -⟩
  · simp at hliteral
  · simp at hcolon

/-- Segments with a colon between each two. -/
def joined (segments : List Text) : Text := [':'].intercalate segments

@[simp] theorem joined_singleton (segment : Text) : joined [segment] = segment := by
  simp [joined, List.intercalate]

theorem joined_cons (segment : Text) {segments : List Text} (h : segments ≠ []) :
    joined (segment :: segments) = segment ++ ':' :: joined segments := by
  cases segments with
  | nil => exact absurd rfl h
  | cons next segments => simp [joined, List.intercalate]

/-- The segments make up the whole text, and each of them is one where it stands. -/
structure IsSegmentation (body : Text) (segments : List Text) : Prop where
  nonempty : segments ≠ []
  joined_eq : joined segments = body
  segment_ne_nil : ∀ segment ∈ segments, segment ≠ []
  isSegment : ∀ segment further, segment :: further <:+ segments →
    IsSegment segment (joined (segment :: further))

/-- Segments make up a text up to its rest, and each of them is one where it stands. -/
structure IsCut (t : Text) (segments : List Text) (rest : Text) : Prop where
  nonempty : segments ≠ []
  joined_eq : joined segments ++ rest = t
  segment_ne_nil : ∀ segment ∈ segments, segment ≠ []
  isSegment : ∀ segment further, segment :: further <:+ segments →
    IsSegment segment (joined (segment :: further) ++ rest)

/-- After its last segment a text is left over behind a literal, at its end, or from a colon on that
no segment follows. -/
def IsLeftOver (segment rest : Text) : Prop :=
  (IsLiteral segment ∧ rest.head? ≠ some ':') ∨ rest = [] ∨
    ∃ tail, rest = ':' :: tail ∧ ∀ c ∈ tail.head?, c = ':'

/-- The text goes on with no further segment. -/
structure IsDivision (t : Text) (segments : List Text) (rest : Text) : Prop
    extends IsCut t segments rest where
  isLeftOver : ∀ last, [last] <:+ segments → IsLeftOver last rest

section

variable {t body segment rest : Text} {segments : List Text}

theorem isCut_singleton :
    IsCut t [segment] rest ↔ segment ≠ [] ∧ IsSegment segment t ∧ t = segment ++ rest := by
  constructor
  · intro h
    have ht : t = segment ++ rest := by simpa using h.joined_eq.symm
    have hsegment := h.isSegment segment [] (List.suffix_refl _)
    rw [h.joined_eq] at hsegment
    exact ⟨h.segment_ne_nil _ (by simp), hsegment, ht⟩
  · rintro ⟨hne, hsegment, rfl⟩
    refine ⟨by simp, by rw [joined_singleton], by simpa using hne, ?_⟩
    intro other further hsuffix
    rcases List.suffix_cons_iff.mp hsuffix with heq | hnil
    · obtain ⟨rfl, rfl⟩ := List.cons.inj heq
      simpa using hsegment
    · simp at hnil

theorem isCut_cons (h : segments ≠ []) :
    IsCut t (segment :: segments) rest ↔
      segment ≠ [] ∧ IsSegment segment t ∧
        ∃ tail, t = segment ++ ':' :: tail ∧ IsCut tail segments rest := by
  constructor
  · intro hs
    have ht := hs.joined_eq
    have hsegment := hs.isSegment segment segments (List.suffix_refl _)
    rw [ht] at hsegment
    refine ⟨hs.segment_ne_nil _ (by simp), hsegment, joined segments ++ rest, ?_, h, rfl, ?_, ?_⟩
    · rw [← ht, joined_cons segment h, List.append_assoc, List.cons_append]
    · intro other hmem
      exact hs.segment_ne_nil other (by simp [hmem])
    · intro other further hsuffix
      exact hs.isSegment other further (hsuffix.trans (List.suffix_cons _ _))
  · rintro ⟨hne, hsegment, tail, rfl, hs⟩
    have hjoined : joined (segment :: segments) ++ rest = segment ++ ':' :: tail := by
      rw [joined_cons segment h, List.append_assoc, List.cons_append, hs.joined_eq]
    refine ⟨by simp, hjoined, ?_, ?_⟩
    · intro other hmem
      rcases List.mem_cons.mp hmem with rfl | hmem
      · exact hne
      · exact hs.segment_ne_nil other hmem
    · intro other further hsuffix
      rcases List.suffix_cons_iff.mp hsuffix with heq | hsuffix
      · obtain ⟨rfl, rfl⟩ := List.cons.inj heq
        rwa [hjoined]
      · exact hs.isSegment other further hsuffix

theorem isDivision_singleton :
    IsDivision t [segment] rest ↔ IsCut t [segment] rest ∧ IsLeftOver segment rest := by
  constructor
  · intro h
    exact ⟨h.toIsCut, h.isLeftOver segment (List.suffix_refl _)⟩
  · rintro ⟨hcut, hleft⟩
    refine ⟨hcut, fun last hsuffix => ?_⟩
    obtain rfl : last = segment := by simpa using hsuffix.eq_of_length rfl
    exact hleft

theorem isDivision_cons (h : segments ≠ []) :
    IsDivision t (segment :: segments) rest ↔
      segment ≠ [] ∧ IsSegment segment t ∧
        ∃ tail, t = segment ++ ':' :: tail ∧ IsDivision tail segments rest := by
  have hlast (last : Text) : [last] <:+ segment :: segments ↔ [last] <:+ segments := by
    rw [List.suffix_cons_iff, or_iff_right]
    rintro heq
    exact h (List.cons.inj heq).2.symm
  constructor
  · intro hs
    obtain ⟨hne, hsegment, tail, ht, htail⟩ := (isCut_cons h).mp hs.toIsCut
    exact ⟨hne, hsegment, tail, ht, htail,
      fun last hsuffix => hs.isLeftOver last ((hlast last).mpr hsuffix)⟩
  · rintro ⟨hne, hsegment, tail, ht, htail⟩
    exact ⟨(isCut_cons h).mpr ⟨hne, hsegment, tail, ht, htail.toIsCut⟩,
      fun last hsuffix => htail.isLeftOver last ((hlast last).mp hsuffix)⟩

theorem isSegmentation_iff_isCut : IsSegmentation body segments ↔ IsCut body segments [] := by
  constructor
  · rintro ⟨hne, hjoined, hnil, hsegment⟩
    exact ⟨hne, by simpa using hjoined, hnil, by simpa using hsegment⟩
  · rintro ⟨hne, hjoined, hnil, hsegment⟩
    exact ⟨hne, by simpa using hjoined, hnil, by simpa using hsegment⟩

theorem isSegmentation_singleton :
    IsSegmentation body [segment] ↔ segment ≠ [] ∧ IsSegment segment body ∧ body = segment := by
  rw [isSegmentation_iff_isCut, isCut_singleton, List.append_nil]

theorem isSegmentation_cons (h : segments ≠ []) :
    IsSegmentation body (segment :: segments) ↔
      segment ≠ [] ∧ IsSegment segment body ∧
        ∃ tail, body = segment ++ ':' :: tail ∧ IsSegmentation tail segments := by
  simp only [isSegmentation_iff_isCut, isCut_cons h]

end

/-! ## One segment -/

theorem bracketed_eq_ok_iff {t segment rest : Text} :
    bracketed t = .ok (segment, rest) ↔ IsLiteral segment ∧ t = segment ++ rest := by
  constructor
  · intro h
    refine ⟨?_, (append_of_bracketed h).1.symm⟩
    unfold bracketed at h
    split at h
    · next body =>
      split at h
      · cases h
      · next close left hdrop =>
        cases h
        have hclose : close = ']' := head_dropWhile_ne (t := body) (by rw [hdrop]; rfl)
        exact ⟨body.takeWhile (· ≠ ']'), not_mem_takeWhile_ne _ _, by simp [hclose]⟩
    · cases h
  · rintro ⟨⟨content, hcontent, rfl⟩, rfl⟩
    have htake : (content ++ ']' :: rest).takeWhile (· ≠ ']') = content :=
      takeWhile_ne_append hcontent (by simp)
    have hdrop : (content ++ ']' :: rest).dropWhile (· ≠ ']') = ']' :: rest :=
      dropWhile_ne_append hcontent (by simp)
    simp only [bracketed, List.cons_append, List.append_assoc, List.nil_append, htake, hdrop]

/-- No literal stands at the start of a text exactly if the text has no opening bracket there, or no
closing one at all. -/
theorem bracketed_eq_error_iff {t : Text} :
    (∃ fault, bracketed t = .error fault) ↔ (t.head? = some '[' → ']' ∉ t) := by
  constructor
  · rintro ⟨fault, hread⟩ hopen hclose
    cases t with
    | nil => simp at hopen
    | cons c body =>
        obtain rfl : c = '[' := by simpa using hopen
        obtain ⟨content, rest, hbody, hcontent⟩ :=
          List.eq_append_cons_of_mem (by simpa using hclose : ']' ∈ body)
        have hok : bracketed ('[' :: body) = .ok ('[' :: (content ++ [']']), rest) :=
          bracketed_eq_ok_iff.mpr ⟨⟨content, hcontent, rfl⟩, by simp [hbody]⟩
        simp [hok] at hread
  · intro h
    cases hread : bracketed t with
    | error fault => exact ⟨fault, rfl⟩
    | ok result =>
        obtain ⟨⟨content, _, hsegment⟩, happend⟩ :=
          bracketed_eq_ok_iff.mp (show bracketed t = .ok (result.1, result.2) from hread)
        refine absurd (h ?_) ?_ <;> simp [happend, hsegment]

/-- After a run the text is at its end or at a colon; after a literal it may be anywhere. -/
theorem next_eq_ok_iff {t segment rest : Text} :
    next t = .ok (segment, rest) ↔
      segment ≠ [] ∧ t = segment ++ rest ∧ IsSegment segment t ∧
        (IsLiteral segment ∨ ∀ c ∈ rest.head?, c = ':') := by
  constructor
  · intro h
    refine ⟨(append_of_next h).2, (append_of_next h).1.symm, ?_⟩
    unfold next at h
    split at h
    · next hbracket =>
      cases h
      have hliteral := (bracketed_eq_ok_iff.mp hbracket).1
      exact ⟨.inl hliteral, .inl hliteral⟩
    · next fault hbracket =>
      have hopen := bracketed_eq_error_iff.mp ⟨fault, hbracket⟩
      split at h
      · cases h
      · cases h
        refine ⟨.inr ⟨not_mem_takeWhile_ne _ _, ?_⟩, .inr fun c hc => head_dropWhile_ne hc⟩
        intro hhead
        apply hopen
        cases t with
        | nil => simp at hhead
        | cons c t =>
            by_cases hc : c = ':'
            · simp [hc] at hhead
            · simpa [hc] using hhead
  · rintro ⟨hne, rfl, hsegment, hrest⟩
    by_cases hliteral : IsLiteral segment
    · simp [next, bracketed_eq_ok_iff.mpr ⟨hliteral, rfl⟩]
    · have hrest := hrest.resolve_left hliteral
      obtain ⟨hcolon, hopen⟩ := hsegment.resolve_left hliteral
      have hopens : (segment ++ rest).head? = some '[' → ']' ∉ segment ++ rest := by
        rwa [List.head?_append_of_ne_nil segment hne]
      obtain ⟨fault, hbracket⟩ := bracketed_eq_error_iff.mpr hopens
      simp only [next, hbracket, takeWhile_ne_append hcolon hrest, dropWhile_ne_append hcolon hrest,
        if_neg hne]

/-- A segment can be read unless the text is at its end or at a colon. -/
theorem next_eq_error_iff {t : Text} :
    (∃ fault, next t = .error fault) ↔ ∀ c ∈ t.head?, c = ':' := by
  constructor
  · rintro ⟨fault, hread⟩ c hc
    unfold next at hread
    split at hread
    · cases hread
    · split at hread
      · next hrun =>
        cases t with
        | nil => simp at hc
        | cons d t =>
            obtain rfl : d = c := by simpa using hc
            by_contra hne
            simp [hne] at hrun
      · cases hread
  · intro h
    cases hread : next t with
    | error fault => exact ⟨fault, rfl⟩
    | ok result =>
        obtain ⟨hne, happend, hsegment, -⟩ :=
          next_eq_ok_iff.mp (show next t = .ok (result.1, result.2) from hread)
        obtain ⟨c, segment, hcons⟩ := List.exists_cons_of_ne_nil hne
        obtain rfl : c = ':' := h c (by simp [happend, hcons])
        exact absurd (by simp [hcons]) hsegment.head?_ne_colon

/-! ## The segments of a text -/

theorem split_of_next {t segment rest : Text} (h : next t = .ok (segment, rest)) :
    split t = .ok (segment :: (further rest).1, (further rest).2) := by
  simp only [split, h]

theorem further_of_head_ne {t : Text} (h : t.head? ≠ some ':') : further t = ([], t) := by
  unfold further
  split
  · simp at h
  · rfl

theorem further_colon_of_split {tail left : Text} {segments : List Text}
    (h : split tail = .ok (segments, left)) : further (':' :: tail) = (segments, left) := by
  rw [further]
  split
  · next hread =>
    rw [split_of_next hread] at h
    exact Except.ok.inj h
  · next hread => simp [split, hread] at h

theorem further_colon_of_error {tail : Text} {fault : Fault} (h : next tail = .error fault) :
    further (':' :: tail) = ([], ':' :: tail) := by
  rw [further]
  split
  · next hread => simp [h] at hread
  · rfl

/-- The segments that can be read from a text, and what is left over. -/
inductive SplitDerivation : Text → List Text → Text → Prop where
  | last {segment rest} : segment ≠ [] → IsSegment segment (segment ++ rest) →
      IsLeftOver segment rest → SplitDerivation (segment ++ rest) [segment] rest
  | colon {segment tail segments rest} : segment ≠ [] →
      IsSegment segment (segment ++ ':' :: tail) → SplitDerivation tail segments rest →
      SplitDerivation (segment ++ ':' :: tail) (segment :: segments) rest

theorem SplitDerivation.execution {t rest : Text} {segments : List Text}
    (h : SplitDerivation t segments rest) : split t = .ok (segments, rest) := by
  induction h with
  | @last segment rest hne hsegment hleft =>
      have hend : IsLiteral segment ∨ ∀ c ∈ rest.head?, c = ':' := by
        rcases hleft with ⟨hliteral, -⟩ | rfl | ⟨tail, rfl, -⟩
        · exact .inl hliteral
        · exact .inr (by simp)
        · exact .inr (by simp)
      have hfurther : further rest = ([], rest) := by
        rcases hleft with ⟨-, hhead⟩ | rfl | ⟨tail, rfl, htail⟩
        · exact further_of_head_ne hhead
        · exact further_of_head_ne (by simp)
        · obtain ⟨fault, hread⟩ := next_eq_error_iff.mpr htail
          exact further_colon_of_error hread
      rw [split_of_next (next_eq_ok_iff.mpr ⟨hne, rfl, hsegment, hend⟩), hfurther]
  | @colon segment tail segments rest hne hsegment _ ih =>
      have hread := next_eq_ok_iff.mpr ⟨hne, rfl, hsegment, .inr (by simp)⟩
      rw [split_of_next hread, further_colon_of_split ih]

theorem split_derivation {t rest : Text} {segments : List Text}
    (h : split t = .ok (segments, rest)) : SplitDerivation t segments rest := by
  cases hread : next t with
  | error fault => simp [split, hread] at h
  | ok result =>
      obtain ⟨segment, left⟩ := result
      obtain ⟨hne, happend, hsegment, hend⟩ := next_eq_ok_iff.mp hread
      rw [split_of_next hread] at h
      obtain ⟨rfl, rfl⟩ := Prod.mk.inj (Except.ok.inj h)
      by_cases hhead : left.head? = some ':'
      · obtain ⟨tail, rfl⟩ := List.head?_eq_some_iff.mp hhead
        cases htail : next tail with
        | error fault =>
            rw [further_colon_of_error htail, happend]
            exact .last hne (happend ▸ hsegment)
              (.inr (.inr ⟨tail, rfl, next_eq_error_iff.mp ⟨fault, htail⟩⟩))
        | ok result =>
            have hsplit := split_of_next htail
            rw [further_colon_of_split hsplit, happend]
            exact .colon hne (happend ▸ hsegment) (split_derivation hsplit)
      · rw [further_of_head_ne hhead, happend]
        refine .last hne (happend ▸ hsegment) ?_
        rcases hend with hliteral | hend
        · exact .inl ⟨hliteral, hhead⟩
        · cases left with
          | nil => exact .inr (.inl rfl)
          | cons c left => exact absurd (by simpa using hend) hhead
termination_by t.length
decreasing_by
  simp only [happend, List.length_append, List.length_cons]
  omega

theorem splitDerivation_iff (t : Text) (segments : List Text) (rest : Text) :
    SplitDerivation t segments rest ↔ split t = .ok (segments, rest) :=
  ⟨SplitDerivation.execution, split_derivation⟩

/-! ## Divisions and segmentations -/

section

variable {t rest : Text} {segments : List Text}

theorem SplitDerivation.isDivision (h : SplitDerivation t segments rest) :
    IsDivision t segments rest := by
  induction h with
  | last hne hsegment hleft =>
      exact isDivision_singleton.mpr ⟨isCut_singleton.mpr ⟨hne, hsegment, rfl⟩, hleft⟩
  | @colon segment tail segments rest hne hsegment _ ih =>
      exact (isDivision_cons ih.nonempty).mpr ⟨hne, hsegment, tail, rfl, ih⟩

theorem IsDivision.derivation (h : IsDivision t segments rest) :
    SplitDerivation t segments rest := by
  induction segments generalizing t with
  | nil => exact absurd rfl h.nonempty
  | cons segment segments ih =>
      by_cases hlast : segments = []
      · subst hlast
        obtain ⟨hcut, hleft⟩ := isDivision_singleton.mp h
        obtain ⟨hne, hsegment, rfl⟩ := isCut_singleton.mp hcut
        exact .last hne hsegment hleft
      · obtain ⟨hne, hsegment, tail, rfl, htail⟩ := (isDivision_cons hlast).mp h
        exact .colon hne hsegment (ih htail)

/-- The splitter reads the segments of a division, and every division is one that it reads. -/
theorem split_eq_ok_iff : split t = .ok (segments, rest) ↔ IsDivision t segments rest := by
  rw [← splitDerivation_iff]
  exact ⟨SplitDerivation.isDivision, IsDivision.derivation⟩

/-- A text has a segmentation exactly if the splitter leaves nothing over. -/
theorem split_eq_ok_nil_iff : split t = .ok (segments, []) ↔ IsSegmentation t segments := by
  rw [split_eq_ok_iff, isSegmentation_iff_isCut]
  exact ⟨IsDivision.toIsCut, fun h => ⟨h, fun _ _ => .inr (.inl rfl)⟩⟩

end

theorem IsSegmentation.unique {t : Text} {first second : List Text}
    (h : IsSegmentation t first) (k : IsSegmentation t second) : first = second := by
  have heq := (split_eq_ok_nil_iff.mpr h).symm.trans (split_eq_ok_nil_iff.mpr k)
  exact (Prod.mk.inj (Except.ok.inj heq)).1

theorem IsSegmentation.body_ne_nil {body : Text} {segments : List Text}
    (h : IsSegmentation body segments) : body ≠ [] := by
  rintro rfl
  have hsplit := split_eq_ok_nil_iff.mpr h
  simp [split, next, bracketed] at hsplit

/-- A property of some segmentation is one of the only segmentation. -/
theorem IsSegmentation.exists_and_iff {body : Text} {segments : List Text} {p : List Text → Prop}
    (h : IsSegmentation body segments) : (∃ other, IsSegmentation body other ∧ p other) ↔ p segments := by
  constructor
  · rintro ⟨other, hother, hp⟩
    exact h.unique hother ▸ hp
  · intro hp
    exact ⟨segments, h, hp⟩

end ThemeCascade.Segment
