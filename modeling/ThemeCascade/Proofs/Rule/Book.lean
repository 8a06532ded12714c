import Mathlib.Data.List.InsertIdx
import ThemeCascade.Rule.Book

/-! # What a rule book holds

The book of two lists is put together from their books, the second one at later positions. So a text
that is no rule, put in anywhere, has its own rejection and moves what comes after it. -/

namespace ThemeCascade

/-- Where a position lies after something was put in at `place`. -/
def shiftedFrom (place index : Nat) : Nat := if index < place then index else index + 1

theorem shiftedFrom_of_lt {place index : Nat} (h : index < place) : shiftedFrom place index = index :=
  if_pos h

theorem shiftedFrom_of_le {place index : Nat} (h : place ≤ index) :
    shiftedFrom place index = index + 1 := if_neg (Nat.not_lt.mpr h)

/-- The rejection of the same text at another position. -/
def Rejection.moved (move : Nat → Nat) (rejection : Rejection) : Rejection :=
  { rejection with index := move rejection.index }

namespace RuleBook

/-- The book of the same texts at other positions. -/
def moved (move : Nat → Nat) (book : RuleBook) : RuleBook where
  rules := book.rules.map fun entry => (move entry.1, entry.2)
  rejections := book.rejections.map (Rejection.moved move)

instance : Append RuleBook where
  append first second := ⟨first.rules ++ second.rules, first.rejections ++ second.rejections⟩

variable (first second book : RuleBook)

@[simp] theorem rules_append : (first ++ second).rules = first.rules ++ second.rules := rfl

@[simp] theorem rejections_append :
    (first ++ second).rejections = first.rejections ++ second.rejections := rfl

theorem moved_append (move : Nat → Nat) :
    (first ++ second).moved move = first.moved move ++ second.moved move := by
  change RuleBook.mk _ _ = RuleBook.mk _ _
  simp only [moved, rules_append, rejections_append, List.map_append]

theorem moved_moved (move next : Nat → Nat) :
    (book.moved move).moved next = book.moved fun index => next (move index) := by
  simp only [moved, List.map_map]
  rfl

variable {first second book}

theorem moved_eq_self {move : Nat → Nat} (hrules : ∀ entry ∈ book.rules, move entry.1 = entry.1)
    (hrejections : ∀ rejection ∈ book.rejections, move rejection.index = rejection.index) :
    book.moved move = book := by
  have hentries : book.rules.map (fun entry => (move entry.1, entry.2)) = book.rules := by
    calc book.rules.map (fun entry => (move entry.1, entry.2)) = book.rules.map id :=
          List.map_congr_left fun entry hentry => by rw [hrules entry hentry]; rfl
      _ = book.rules := List.map_id _
  have hskipped : book.rejections.map (Rejection.moved move) = book.rejections := by
    calc book.rejections.map (Rejection.moved move) = book.rejections.map id :=
          List.map_congr_left fun rejection hmem => by
            rw [Rejection.moved, hrejections rejection hmem]; rfl
      _ = book.rejections := List.map_id _
  rw [moved, hentries, hskipped]

/-! ## Entries and their texts -/

variable {texts : List Text} {index : Nat} {text : Text} {rule : Rule} {error : RuleError}

theorem rule?_eq_some_iff {entry : Text × Nat} :
    rule? entry = some (index, rule) ↔ index = entry.2 ∧ Rule.parse entry.1 = .ok rule := by
  cases h : Rule.parse entry.1 with
  | ok other => simp [rule?, h, eq_comm]
  | error error => simp [rule?, h]

theorem rejection?_eq_some_iff {entry : Text × Nat} {rejection : Rejection} :
    rejection? entry = some rejection ↔ rejection.index = entry.2 ∧ rejection.text = entry.1 ∧
      Rule.parse entry.1 = .error rejection.error := by
  cases h : Rule.parse entry.1 with
  | ok rule => simp [rejection?, h]
  | error error =>
      obtain ⟨index, text, cause⟩ := rejection
      simp [rejection?, h, eq_comm]

theorem mem_rules_iff :
    (index, rule) ∈ (ofTexts texts).rules ↔
      ∃ text, texts[index]? = some text ∧ Rule.parse text = .ok rule := by
  simp only [ofTexts, List.mem_filterMap, rule?_eq_some_iff, List.mem_zipIdx_iff_getElem?, Prod.exists]
  constructor
  · rintro ⟨text, _, htext, rfl, hparse⟩
    exact ⟨text, htext, hparse⟩
  · rintro ⟨text, htext, hparse⟩
    exact ⟨text, index, htext, rfl, hparse⟩

theorem mem_rejections_iff {rejection : Rejection} :
    rejection ∈ (ofTexts texts).rejections ↔
      texts[rejection.index]? = some rejection.text ∧
        Rule.parse rejection.text = .error rejection.error := by
  simp only [ofTexts, List.mem_filterMap, rejection?_eq_some_iff, List.mem_zipIdx_iff_getElem?,
    Prod.exists]
  constructor
  · rintro ⟨_, _, htext, rfl, rfl, hparse⟩
    exact ⟨htext, hparse⟩
  · rintro ⟨htext, hparse⟩
    exact ⟨_, _, htext, rfl, rfl, hparse⟩

/-- The book of texts that stand at any positions. -/
def ofEntries (entries : List (Text × Nat)) : RuleBook :=
  ⟨entries.filterMap rule?, entries.filterMap rejection?⟩

theorem ofEntries_cons (entry : Text × Nat) (entries : List (Text × Nat)) :
    ofEntries (entry :: entries) = ofEntries [entry] ++ ofEntries entries := by
  change RuleBook.mk _ _ = RuleBook.mk _ _
  simp only [ofEntries, ← List.filterMap_append, List.singleton_append]

theorem ofEntries_singleton_of_ok (h : Rule.parse text = .ok rule) (index : Nat) :
    ofEntries [(text, index)] = ⟨[(index, rule)], []⟩ := by
  simp [ofEntries, rule?, rejection?, h]

theorem ofEntries_singleton_of_error (h : Rule.parse text = .error error) (index : Nat) :
    ofEntries [(text, index)] = ⟨[], [⟨index, text, error⟩]⟩ := by
  simp [ofEntries, rule?, rejection?, h]

theorem index_lt_of_mem_rules {entry : Nat × Rule} (h : entry ∈ (ofTexts texts).rules) :
    entry.1 < texts.length := by
  obtain ⟨text, htext, -⟩ := mem_rules_iff.mp h
  exact (List.getElem?_eq_some_iff.mp htext).1

theorem index_lt_of_mem_rejections {rejection : Rejection}
    (h : rejection ∈ (ofTexts texts).rejections) : rejection.index < texts.length :=
  (List.getElem?_eq_some_iff.mp (mem_rejections_iff.mp h).1).1

/-! ## Books of joined lists -/

theorem rule?_add (offset : Nat) (entry : Text × Nat) :
    rule? (entry.1, offset + entry.2) =
      (rule? entry).map fun entry => (offset + entry.1, entry.2) := by
  cases h : Rule.parse entry.1 <;> simp [rule?, h]

theorem rejection?_add (offset : Nat) (entry : Text × Nat) :
    rejection? (entry.1, offset + entry.2) = (rejection? entry).map (Rejection.moved (offset + ·)) := by
  cases h : Rule.parse entry.1 <;> simp [rejection?, Rejection.moved, h]

/-- The book of the later texts begins where the earlier ones end. -/
theorem ofTexts_append (earlier later : List Text) :
    ofTexts (earlier ++ later) = ofTexts earlier ++ (ofTexts later).moved (earlier.length + ·) := by
  have hlater : later.zipIdx earlier.length =
      later.zipIdx.map fun entry => (entry.1, earlier.length + entry.2) := List.zipIdx_eq_map_add
  change RuleBook.mk _ _ = RuleBook.mk _ _
  simp only [ofTexts, moved, List.zipIdx_append, Nat.zero_add, List.filterMap_append, hlater,
    List.filterMap_map, List.map_filterMap, Function.comp_def, rule?_add, rejection?_add]

theorem ofTexts_singleton_of_error (h : Rule.parse text = .error error) :
    ofTexts [text] = ⟨[], [⟨0, text, error⟩]⟩ :=
  ofEntries_singleton_of_error h 0

/-! ## A text that is no rule -/

theorem moved_shiftedFrom_ofTexts (texts : List Text) :
    (ofTexts texts).moved (shiftedFrom texts.length) = ofTexts texts := by
  apply moved_eq_self
  · intro entry hentry
    exact shiftedFrom_of_lt (index_lt_of_mem_rules hentry)
  · intro rejection hrejection
    exact shiftedFrom_of_lt (index_lt_of_mem_rejections hrejection)

theorem moved_add_shiftedFrom (book : RuleBook) (place : Nat) :
    (book.moved (place + ·)).moved (shiftedFrom place) = book.moved (place + 1 + ·) := by
  rw [moved_moved]
  congr 1
  funext index
  rw [shiftedFrom_of_le (Nat.le_add_right place index)]
  omega

theorem ofTexts_append_cons_of_error (h : Rule.parse text = .error error)
    (earlier later : List Text) :
    ofTexts (earlier ++ text :: later) =
      ofTexts earlier ++ (⟨[], [⟨earlier.length, text, error⟩]⟩ ++
        (ofTexts later).moved (earlier.length + 1 + ·)) := by
  have hrest : (ofTexts (text :: later)).moved (earlier.length + ·) =
      ⟨[], [⟨earlier.length, text, error⟩]⟩ ++ (ofTexts later).moved (earlier.length + 1 + ·) := by
    rw [← List.singleton_append, ofTexts_append, ofTexts_singleton_of_error h, moved_append,
      moved_moved]
    simp [moved, Rejection.moved, Nat.add_assoc]
  rw [ofTexts_append, hrest]

/-- The texts before and after a place. -/
theorem exists_parts (texts : List Text) {place : Nat} (h : place ≤ texts.length) :
    ∃ earlier later, earlier.length = place ∧ texts = earlier ++ later ∧
      ∀ text, texts.insertIdx place text = earlier ++ text :: later := by
  induction texts generalizing place with
  | nil =>
      obtain rfl : place = 0 := Nat.le_zero.mp h
      exact ⟨[], [], rfl, rfl, fun _ => rfl⟩
  | cons first texts ih =>
      cases place with
      | zero => exact ⟨[], first :: texts, rfl, rfl, fun _ => rfl⟩
      | succ place =>
          obtain ⟨earlier, later, hlength, htexts, hinsert⟩ := ih (Nat.le_of_succ_le_succ h)
          refine ⟨first :: earlier, later, by simp [hlength], by simp [← htexts], ?_⟩
          intro text
          rw [List.insertIdx_succ_cons, hinsert]
          rfl

variable {place : Nat}

/-- The rules stay, and those after the text lie one position further on. -/
theorem rules_insertIdx (h : Rule.parse text = .error error) (hplace : place ≤ texts.length) :
    (ofTexts (texts.insertIdx place text)).rules =
      ((ofTexts texts).moved (shiftedFrom place)).rules := by
  obtain ⟨earlier, later, rfl, rfl, hinsert⟩ := exists_parts texts hplace
  rw [hinsert, ofTexts_append_cons_of_error h, ofTexts_append, moved_append,
    moved_shiftedFrom_ofTexts, moved_add_shiftedFrom]
  rfl

/-- The text is rejected at its place, between the rejections before and after it. -/
theorem rejections_insertIdx (h : Rule.parse text = .error error) (hplace : place ≤ texts.length) :
    (ofTexts (texts.insertIdx place text)).rejections =
      (ofTexts texts).rejections.filter (·.index < place) ++ ⟨place, text, error⟩ ::
        ((ofTexts texts).rejections.filter (place ≤ ·.index)).map (Rejection.moved (· + 1)) := by
  obtain ⟨earlier, later, rfl, rfl, hinsert⟩ := exists_parts texts hplace
  have hearlier : ∀ rejection ∈ (ofTexts earlier).rejections, rejection.index < earlier.length :=
    fun _ => index_lt_of_mem_rejections
  have hlater : ∀ rejection ∈ ((ofTexts later).moved (earlier.length + ·)).rejections,
      earlier.length ≤ rejection.index := by
    intro rejection hrejection
    obtain ⟨other, -, rfl⟩ := List.mem_map.mp hrejection
    exact Nat.le_add_right ..
  have hbefore : (ofTexts (earlier ++ later)).rejections.filter (·.index < earlier.length) =
      (ofTexts earlier).rejections := by
    rw [ofTexts_append, rejections_append, List.filter_append,
      List.filter_eq_self.mpr (by simpa using hearlier), List.filter_eq_nil_iff.mpr (by simpa using hlater),
      List.append_nil]
  have hafter : (ofTexts (earlier ++ later)).rejections.filter (earlier.length ≤ ·.index) =
      ((ofTexts later).moved (earlier.length + ·)).rejections := by
    rw [ofTexts_append, rejections_append, List.filter_append,
      List.filter_eq_nil_iff.mpr (by simpa using hearlier), List.filter_eq_self.mpr (by simpa using hlater),
      List.nil_append]
  rw [hbefore, hafter, hinsert, ofTexts_append_cons_of_error h]
  have hmoved : ((ofTexts later).moved (earlier.length + 1 + ·)).rejections =
      ((ofTexts later).moved (earlier.length + ·)).rejections.map (Rejection.moved (· + 1)) := by
    simp only [moved, List.map_map]
    refine List.map_congr_left fun rejection _ => ?_
    simp only [Function.comp_apply, Rejection.moved, Rejection.mk.injEq, and_true]
    omega
  rw [rejections_append, rejections_append, hmoved]
  rfl

end RuleBook

end ThemeCascade
