import ThemeCascade.Path
import ThemeCascade.Proofs.Text.Words

/-! # The names that a path can give

An empty piece between slashes is no piece, and a stem is never empty, so no file defines a component
without a name. Which of the last two pieces names it is told by a derivation. -/

namespace ThemeCascade.Path

namespace Piece

theorem ofText?_eq_name_iff {t text : Text} :
    ofText? t = some (name text) ↔ text = t ∧ t ≠ [] ∧ t ≠ ['.'] ∧ t ≠ ['.', '.'] := by
  by_cases hskipped : t = [] ∨ t = ['.']
  · rcases hskipped with rfl | rfl <;> simp [ofText?]
  · rw [not_or] at hskipped
    by_cases hup : t = ['.', '.']
    · simp [ofText?, hup]
    · simp [ofText?, hskipped, hup, eq_comm]

theorem ofFirst?_eq_name_iff {t text : Text} :
    ofFirst? t = some (name text) ↔ ofText? t = some (name text) := by
  by_cases h : t = ['.']
  · simp [ofFirst?, ofText?, h]
  · rw [ofFirst?, if_neg h]

end Piece

/-! ## Pieces -/

theorem exists_ofText?_of_name_mem_pieces {path text : Text} (h : .name text ∈ pieces path) :
    ∃ t ∈ path.splitOnP (· = '/'), Piece.ofText? t = some (.name text) := by
  cases hsplit : path.splitOnP (· = '/') with
  | nil => simp [pieces, hsplit] at h
  | cons first rest =>
      simp only [pieces, hsplit, List.mem_append, Option.mem_toList, List.mem_filterMap] at h
      rcases h with hfirst | ⟨t, hmem, ht⟩
      · by_cases habsolute : isAbsolute path = true
        · simp [habsolute] at hfirst
        · rw [if_neg habsolute] at hfirst
          exact ⟨first, by simp, Piece.ofFirst?_eq_name_iff.mp hfirst⟩
      · exact ⟨t, by simp [hmem], ht⟩

theorem ne_nil_of_name_mem_pieces {path text : Text} (h : .name text ∈ pieces path) : text ≠ [] := by
  obtain ⟨t, -, ht⟩ := exists_ofText?_of_name_mem_pieces h
  obtain ⟨rfl, hne, -⟩ := Piece.ofText?_eq_name_iff.mp ht
  exact hne

theorem slash_not_mem_of_name_mem_pieces {path text : Text} (h : .name text ∈ pieces path) :
    '/' ∉ text := by
  obtain ⟨t, hmem, ht⟩ := exists_ofText?_of_name_mem_pieces h
  obtain ⟨rfl, -⟩ := Piece.ofText?_eq_name_iff.mp ht
  intro hslash
  simpa using Text.eq_false_of_mem_splitOnP hmem '/' hslash

theorem endName?_eq_some_iff {l : List Piece} {text : Text} :
    endName? l = some text ↔ l.getLast? = some (.name text) := by
  cases hlast : l.getLast? with
  | none => simp [endName?, hlast]
  | some piece => cases piece <;> simp [endName?, hlast]

theorem endName?_concat (front : List Piece) (text : Text) :
    endName? (front ++ [.name text]) = some text :=
  endName?_eq_some_iff.mpr List.getLast?_concat

/-! ## Names -/

theorem stem_ne_nil {name : Text} (h : name ≠ []) : stem name ≠ [] := by
  unfold stem
  split
  · exact h
  · next hstem => exact hstem

theorem stem_subset (name : Text) : stem name ⊆ name := by
  unfold stem
  split
  · exact List.Subset.refl _
  · intro c hc
    have hmem := List.mem_of_mem_tail (List.mem_reverse.mp hc)
    exact List.mem_reverse.mp (List.dropWhile_subset _ hmem)

/-! ## Components -/

/-- The last piece names the component, or the one before it if the last is an index. -/
inductive ComponentDerivation : List Piece → Text → Prop where
  | file {front name} : stem name ≠ "index".toList →
      ComponentDerivation (front ++ [.name name]) (stem name)
  | directory {front directory name} : stem name = "index".toList →
      ComponentDerivation (front ++ [.name directory] ++ [.name name]) directory

theorem ComponentDerivation.execution {path component : Text}
    (h : ComponentDerivation (pieces path) component) : componentName? path = some component := by
  generalize hpieces : pieces path = l at h
  cases h with
  | file hstem => simp only [componentName?, hpieces, endName?_concat, if_neg hstem]
  | directory hstem =>
      simp only [componentName?, hpieces, endName?_concat, if_pos hstem, List.dropLast_concat]

theorem componentName?_derivation {path component : Text} (h : componentName? path = some component) :
    ComponentDerivation (pieces path) component := by
  cases hname : endName? (pieces path) with
  | none => simp [componentName?, hname] at h
  | some name =>
      obtain ⟨front, hfront⟩ := List.getLast?_eq_some_iff.mp (endName?_eq_some_iff.mp hname)
      simp only [componentName?, hname] at h
      rw [hfront] at h ⊢
      split at h
      · next hindex =>
        rw [List.dropLast_concat] at h
        obtain ⟨before, rfl⟩ := List.getLast?_eq_some_iff.mp (endName?_eq_some_iff.mp h)
        exact .directory hindex
      · next hindex =>
        obtain rfl := Option.some.inj h
        exact .file hindex

theorem componentName?_eq_some_iff {path component : Text} :
    componentName? path = some component ↔ ComponentDerivation (pieces path) component :=
  ⟨componentName?_derivation, ComponentDerivation.execution⟩

/-- A component has the characters of a name in the path, and at least one of them. -/
theorem ComponentDerivation.exists_name {l : List Piece} {component : Text}
    (h : ComponentDerivation l component) :
    ∃ text, .name text ∈ l ∧ component ⊆ text ∧ (text ≠ [] → component ≠ []) := by
  cases h with
  | @file front name _ => exact ⟨name, by simp, stem_subset name, stem_ne_nil⟩
  | directory _ => exact ⟨component, by simp, List.Subset.refl _, id⟩

theorem componentName?_ne_nil (path : Text) : componentName? path ≠ some [] := by
  intro hnil
  obtain ⟨text, hmem, -, hne⟩ := (componentName?_derivation hnil).exists_name
  exact hne (ne_nil_of_name_mem_pieces hmem) rfl

theorem slash_not_mem_componentName? {path component : Text} (h : componentName? path = some component) :
    '/' ∉ component := by
  obtain ⟨text, hmem, hsubset, -⟩ := (componentName?_derivation h).exists_name
  exact fun hslash => slash_not_mem_of_name_mem_pieces hmem (hsubset hslash)

end ThemeCascade.Path
