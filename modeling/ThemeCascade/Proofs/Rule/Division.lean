import ThemeCascade.Proofs.Rule.Segmentation

/-! # How far a text is read

A text is divided into segments and a rest unless it is empty or begins with a colon. Nothing of it is
lost, no segment follows the last one, and no other way to cut segments off the text gets further. -/

namespace ThemeCascade.Segment

variable {t segment rest other left : Text} {segments others : List Text} {fault : Fault}

/-! ## Where nothing is read -/

theorem forall_head_eq_colon_iff : (∀ c ∈ t.head?, c = ':') ↔ t = [] ∨ t.head? = some ':' := by
  cases t <;> simp

theorem fault_of_next (h : next t = .error fault) : fault = ⟨.noSegment, t⟩ := by
  unfold next at h
  split at h
  · cases h
  · split at h
    · exact (Except.error.inj h).symm
    · cases h

theorem split_eq_error_iff_next : split t = .error fault ↔ next t = .error fault := by
  cases h : next t with
  | error other => simp only [split, h, Except.error.injEq]
  | ok result => simp [split_of_next (show next t = .ok (result.1, result.2) from h)]

theorem split_eq_error_iff :
    split t = .error fault ↔ fault = ⟨.noSegment, t⟩ ∧ (t = [] ∨ t.head? = some ':') := by
  rw [split_eq_error_iff_next, ← forall_head_eq_colon_iff, ← next_eq_error_iff]
  constructor
  · intro h
    exact ⟨fault_of_next h, fault, h⟩
  · rintro ⟨rfl, other, h⟩
    rwa [← fault_of_next h]

theorem exists_split_eq_ok (hne : t ≠ []) (hhead : t.head? ≠ some ':') :
    ∃ segments rest, split t = .ok (segments, rest) := by
  cases h : split t with
  | error fault =>
      rcases (split_eq_error_iff.mp h).2 with hnil | hcolon
      · exact absurd hnil hne
      · exact absurd hcolon hhead
  | ok result => exact ⟨result.1, result.2, rfl⟩

/-! ## Other cuts -/

theorem isPrefix_joined_cons : segment <+: joined (segment :: segments) := by
  by_cases h : segments = []
  · simp [h]
  · rw [joined_cons segment h]
    exact List.prefix_append _ _

theorem IsCut.exists_split (h : IsCut t others left) :
    ∃ segments rest, split t = .ok (segments, rest) := by
  obtain ⟨segment, others, rfl⟩ := List.exists_cons_of_ne_nil h.nonempty
  have hne := h.segment_ne_nil segment (by simp)
  have hhead := (h.isSegment segment others (List.suffix_refl _)).head?_ne_colon
  obtain ⟨more, rfl⟩ : segment <+: t := by
    rw [← h.joined_eq]
    exact isPrefix_joined_cons.trans (List.prefix_append _ _)
  refine exists_split_eq_ok (by simp [hne]) ?_
  rwa [List.head?_append_of_ne_nil segment hne]

/-- A segment at the start of a text is the one that is read or a beginning of it: a literal is read
as it is, and a run is read up to its colon. -/
theorem isPrefix_of_next (hread : next (segment ++ rest) = .ok (other, left)) (hne : segment ≠ [])
    (hsegment : IsSegment segment (segment ++ rest)) : segment <+: other := by
  by_cases hliteral : IsLiteral segment
  · have hsame := hread.symm.trans (next_eq_ok_iff.mpr ⟨hne, rfl, hsegment, .inl hliteral⟩)
    obtain ⟨rfl, -⟩ := Prod.mk.inj (Except.ok.inj hsame)
    exact List.prefix_rfl
  · obtain ⟨hcolon, hopen⟩ := hsegment.resolve_left hliteral
    obtain ⟨-, happend, -, hend⟩ := next_eq_ok_iff.mp hread
    have hleft : ∀ c ∈ left.head?, c = ':' := by
      refine hend.resolve_left ?_
      rintro ⟨content, -, rfl⟩
      have hhead : segment.head? = some '[' := by
        rw [← List.head?_append_of_ne_nil segment hne, happend]
        rfl
      exact hopen hhead (by simp [happend])
    rcases List.append_eq_append_iff.mp happend with ⟨more, hother, -⟩ | ⟨more, hmore, rfl⟩
    · exact ⟨more, hother.symm⟩
    · -- what would stand behind the read segment begins with the colon that ends it
      cases more with
      | nil => simp [hmore]
      | cons c more =>
          obtain rfl : c = ':' := hleft c rfl
          simp [hmore] at hcolon

/-- The induction is along the other segments: each but the last has a colon behind it and so is the
one that is read there. -/
theorem IsCut.joined_isPrefix (hcut : IsCut t others left) (hread : split t = .ok (segments, rest)) :
    joined others <+: joined segments := by
  induction others generalizing t segments with
  | nil => exact absurd rfl hcut.nonempty
  | cons segment others ih =>
      by_cases hlast : others = []
      · subst hlast
        obtain ⟨hne, hsegment, rfl⟩ := isCut_singleton.mp hcut
        cases hnext : next (segment ++ left) with
        | error fault => simp [split_eq_error_iff_next.mpr hnext] at hread
        | ok result =>
            obtain ⟨first, behind⟩ := result
            rw [split_of_next hnext] at hread
            obtain ⟨rfl, -⟩ := Prod.mk.inj (Except.ok.inj hread)
            rw [joined_singleton]
            exact (isPrefix_of_next hnext hne hsegment).trans isPrefix_joined_cons
      · obtain ⟨hne, hsegment, tail, rfl, htail⟩ := (isCut_cons hlast).mp hcut
        obtain ⟨read, behind, hsplit⟩ := htail.exists_split
        have hnext := next_eq_ok_iff.mpr ⟨hne, rfl, hsegment, .inr (by simp)⟩
        rw [split_of_next hnext, further_colon_of_split hsplit] at hread
        obtain ⟨rfl, rfl⟩ := Prod.mk.inj (Except.ok.inj hread)
        have hbehind : ':' :: joined others <+: ':' :: joined read :=
          List.cons_prefix_cons.mpr ⟨rfl, ih htail hsplit⟩
        rw [joined_cons segment hlast, joined_cons segment (split_eq_ok_iff.mp hsplit).nonempty]
        exact (List.prefix_append_right_inj segment).mpr hbehind

/-! ## Every text -/

/-- What is read of a text, or that nothing is. -/
structure DivisionSpec (t : Text) (result : Except Fault (List Text × Text)) : Prop where
  error_iff : ∀ fault, result = .error fault ↔
    fault = ⟨.noSegment, t⟩ ∧ (t = [] ∨ t.head? = some ':')
  exists_ok : t ≠ [] → t.head? ≠ some ':' →
    ∃ segments rest, result = .ok (segments, rest) ∧ IsDivision t segments rest
  ok_iff : ∀ segments rest, result = .ok (segments, rest) ↔ IsDivision t segments rest
  literal_or_run : ∀ segments rest, result = .ok (segments, rest) →
    ∀ segment ∈ segments, IsLiteral segment ∨ ':' ∉ segment
  longest : ∀ segments rest others left, result = .ok (segments, rest) → IsCut t others left →
    joined others <+: joined segments

theorem split_spec (t : Text) : DivisionSpec t (split t) := by
  refine ⟨fun _ => split_eq_error_iff, ?_, fun _ _ => split_eq_ok_iff, ?_, ?_⟩
  · intro hne hhead
    obtain ⟨segments, rest, hread⟩ := exists_split_eq_ok hne hhead
    exact ⟨segments, rest, hread, split_eq_ok_iff.mp hread⟩
  · intro segments rest hread segment hmem
    obtain ⟨earlier, further, rfl⟩ := List.append_of_mem hmem
    exact ((split_eq_ok_iff.mp hread).isSegment segment further (List.suffix_append _ _)).imp_right
      And.left
  · intro segments rest others left hread hcut
    exact hcut.joined_isPrefix hread

example : split "Card:[a:b]:::c".toList = .ok (["Card".toList, "[a:b]".toList], ":::c".toList) := by
  decide +kernel

end ThemeCascade.Segment
