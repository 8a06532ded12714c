import ThemeCascade.Proofs.Path.Names
import ThemeCascade.Proofs.Text.Runs

/-! # Files in other places

A path that is moved into a directory keeps its pieces, except for the mark that it may begin with. Components
are named by the pieces at the end, so a file defines the same one wherever it is. -/

namespace ThemeCascade.Path

/-! ## Pieces behind a slash -/

/-- The pieces that a path has as a part of a longer one. -/
def below (path : Text) : List Piece := (path.splitOnP (· = '/')).filterMap Piece.ofText?

/-- The mark that a path may begin with, the root or a dot. -/
def beginning (path : Text) : List Piece :=
  if isAbsolute path then [.root]
  else if (path.splitOnP (· = '/')).head? = some ['.'] then [.here] else []

theorem name_not_mem_beginning (path text : Text) : .name text ∉ beginning path := by
  unfold beginning
  split
  · simp
  · split <;> simp

theorem head?_splitOnP_of_isAbsolute {path : Text} (h : isAbsolute path = true) :
    (path.splitOnP (· = '/')).head? = some [] := by
  obtain ⟨rest, rfl⟩ := List.head?_eq_some_iff.mp (by simpa [isAbsolute] using h)
  have hsplit : ([] ++ '/' :: rest).splitOnP (· = '/') = [[]] ++ rest.splitOnP (· = '/') :=
    List.splitOnP_append_cons [] rest (by simp)
  rw [← List.nil_append ('/' :: rest), hsplit]
  rfl

theorem pieces_eq (path : Text) : pieces path = beginning path ++ below path := by
  obtain ⟨first, rest, hsplit⟩ :=
    List.exists_cons_of_ne_nil (List.splitOnP_ne_nil (· = '/') path)
  simp only [pieces, beginning, below, hsplit, List.head?_cons, Option.some.injEq]
  by_cases habsolute : isAbsolute path = true
  · have hfirst := head?_splitOnP_of_isAbsolute habsolute
    rw [hsplit, List.head?_cons, Option.some.injEq] at hfirst
    simp [habsolute, hfirst, Piece.ofText?]
  · by_cases hfirst : first = ['.']
    · simp [habsolute, hfirst, Piece.ofFirst?, Piece.ofText?]
    · have hsame : Piece.ofFirst? first = Piece.ofText? first := if_neg hfirst
      simp only [if_neg habsolute, if_neg hfirst, hsame, List.nil_append, List.filterMap_cons]
      cases Piece.ofText? first <;> rfl

theorem below_append_slash (directory path : Text) :
    below (directory ++ '/' :: path) = below directory ++ below path := by
  rw [below, List.splitOnP_append_cons _ _ (by simp), List.filterMap_append]
  rfl

theorem beginning_append_slash {directory : Text} (h : directory ≠ []) (path : Text) :
    beginning (directory ++ '/' :: path) = beginning directory := by
  have hhead : (directory ++ '/' :: path).head? = directory.head? := List.head?_append_of_ne_nil _ h
  have hsplit : ((directory ++ '/' :: path).splitOnP (· = '/')).head? =
      (directory.splitOnP (· = '/')).head? := by
    rw [List.splitOnP_append_cons _ _ (by simp),
      List.head?_append_of_ne_nil _ (List.splitOnP_ne_nil _ _)]
  unfold beginning isAbsolute
  rw [hhead, hsplit]

/-- Behind the pieces of a directory come those of the path in it; nothing before the slash is the root. -/
theorem pieces_append_slash (directory path : Text) :
    pieces (directory ++ '/' :: path) =
      (if directory = [] then [.root] else pieces directory) ++ below path := by
  rw [pieces_eq, below_append_slash, ← List.append_assoc]
  by_cases hempty : directory = []
  · subst hempty
    simp [beginning, isAbsolute, below, Piece.ofText?]
  · rw [if_neg hempty, beginning_append_slash hempty, pieces_eq]

/-! ## Components -/

/-- Nothing before the pieces that name a component makes a difference. -/
theorem ComponentDerivation.append {l : List Piece} {component : Text} (h : ComponentDerivation l component)
    (front : List Piece) : ComponentDerivation (front ++ l) component := by
  cases h with
  | @file before name hstem =>
      rw [← List.append_assoc]
      exact .file hstem
  | @directory before _ name hstem =>
      rw [← List.append_assoc, ← List.append_assoc]
      exact .directory hstem

/-- Names at the end of a list are not among the pieces before it that are no names. -/
theorem exists_eq_append_of_names {marks l front names : List Piece}
    (hmarks : ∀ text, .name text ∉ marks) (hnames : ∀ piece ∈ names, ∃ text, piece = .name text)
    (h : marks ++ l = front ++ names) : ∃ before, l = before ++ names := by
  rcases List.append_eq_append_iff.mp h with ⟨before, -, hl⟩ | ⟨overlap, hoverlap, hl⟩
  · exact ⟨before, hl⟩
  · cases overlap with
    | nil => exact ⟨[], by simpa using hl.symm⟩
    | cons piece overlap =>
        obtain ⟨text, rfl⟩ := hnames piece (by simp [hl])
        exact absurd (by simp [hoverlap]) (hmarks text)

theorem ComponentDerivation.of_append {marks l : List Piece} {component : Text}
    (hmarks : ∀ text, .name text ∉ marks) (h : ComponentDerivation (marks ++ l) component) :
    ComponentDerivation l component := by
  generalize hall : marks ++ l = all at h
  cases h with
  | @file front name hstem =>
      obtain ⟨before, rfl⟩ := exists_eq_append_of_names hmarks (by simp) hall
      exact .file hstem
  | @directory front _ name hstem =>
      rw [List.append_assoc] at hall
      obtain ⟨before, rfl⟩ := exists_eq_append_of_names hmarks (by simp) hall
      rw [← List.append_assoc]
      exact .directory hstem

/-- A component is named by the pieces behind the mark that the path begins with. -/
theorem componentDerivation_below {path component : Text} (h : componentName? path = some component) :
    ComponentDerivation (below path) component := by
  have hpieces := componentName?_derivation h
  rw [pieces_eq] at hpieces
  exact hpieces.of_append (name_not_mem_beginning path)

theorem componentName?_append_slash {path component : Text} (h : componentName? path = some component)
    (directory : Text) : componentName? (directory ++ '/' :: path) = some component := by
  rw [componentName?_eq_some_iff, pieces_append_slash]
  exact (componentDerivation_below h).append _

/-! ## Index files -/

theorem stem_append_dot {base extension : Text} (hbase : base ≠ []) (hextension : '.' ∉ extension) :
    stem (base ++ '.' :: extension) = base := by
  have hdrop : ((base ++ '.' :: extension).reverse.dropWhile (· ≠ '.')) = '.' :: base.reverse := by
    rw [List.reverse_append, List.reverse_cons, List.append_assoc, List.singleton_append]
    exact Text.dropWhile_ne_append (by simpa using hextension) (by simp)
  rw [stem, hdrop, List.tail_cons, List.reverse_reverse]
  cases base with
  | nil => exact absurd rfl hbase
  | cons c base => rfl

theorem below_eq_name {text : Text} (hslash : '/' ∉ text) (h : Piece.ofText? text = some (.name text)) :
    below text = [.name text] := by
  have hsplit : text.splitOnP (· = '/') = [text] :=
    List.splitOnP_eq_singleton fun c hc => by simpa using ne_of_mem_of_not_mem hc hslash
  simp [below, hsplit, h]

/-- The directory of an index file names its component, whatever dots its name has. -/
theorem componentName?_index {directory name extension : Text}
    (hname : endName? (pieces directory) = some name) (hdot : '.' ∉ extension) (hslash : '/' ∉ extension) :
    componentName? (directory ++ "/index.".toList ++ extension) = some name := by
  have hstem : stem ("index".toList ++ '.' :: extension) = "index".toList :=
    stem_append_dot (by simp) hdot
  have hbelow : below ("index".toList ++ '.' :: extension) = [.name ("index".toList ++ '.' :: extension)] :=
    below_eq_name (by simpa using hslash) (by simp [Piece.ofText?])
  obtain ⟨front, hfront⟩ := List.getLast?_eq_some_iff.mp (endName?_eq_some_iff.mp hname)
  have hne : directory ≠ [] := by
    rintro rfl
    simp [pieces, isAbsolute, Piece.ofFirst?, Piece.ofText?] at hfront
  have hpath : directory ++ "/index.".toList ++ extension =
      directory ++ '/' :: ("index".toList ++ '.' :: extension) := by simp
  rw [hpath, componentName?_eq_some_iff, pieces_append_slash, if_neg hne, hfront, hbelow]
  exact .directory hstem

/-- A file defines the same component in every directory, and its name is never empty and never a path. An
index file takes the name of its directory as a whole. -/
theorem componentName?_anywhere :
    (∀ path component, componentName? path = some component →
      component ≠ [] ∧ '/' ∉ component ∧
        ∀ directory, componentName? (directory ++ '/' :: path) = some component) ∧
      ∀ directory name extension, endName? (pieces directory) = some name → '.' ∉ extension →
        '/' ∉ extension → componentName? (directory ++ "/index.".toList ++ extension) = some name := by
  refine ⟨fun path component h => ⟨?_, slash_not_mem_componentName? h, componentName?_append_slash h⟩, ?_⟩
  · rintro rfl
    exact componentName?_ne_nil path h
  · intro directory name extension hname hdot hslash
    exact componentName?_index hname hdot hslash

theorem componentName?_anywhere_dotted :
    let path := "./My.Card//index.tsx/.".toList
    let directory := "../src/My.Card/.//".toList
    (componentName? path = some "My.Card".toList ∧
        ∀ directory, componentName? (directory ++ '/' :: path) = some "My.Card".toList) ∧
      endName? (pieces directory) = some "My.Card".toList ∧ '.' ∉ "tsx".toList ∧ '/' ∉ "tsx".toList ∧
        componentName? (directory ++ "/index.".toList ++ "tsx".toList) = some "My.Card".toList := by
  intro path directory
  have hpath : componentName? path = some "My.Card".toList := by decide +kernel
  have hname : endName? (pieces directory) = some "My.Card".toList := by decide +kernel
  exact ⟨⟨hpath, (componentName?_anywhere.1 path _ hpath).2.2⟩, hname, by decide, by decide,
    componentName?_anywhere.2 directory _ _ hname (by decide) (by decide)⟩

end ThemeCascade.Path
