import ThemeCascade.Proofs.Traced
import ThemeCascade.Cascade

/-! # The declared cascade

What an element is given is declared over the positions of the configured rules, without a rule book
and without a table. Resolving with any supplier of the configured tokens gives exactly this. -/

namespace ThemeCascade

/-- The order in which sources are listed. -/
def Source.Precedes : Source → Source → Prop
  | .rule i, .rule j => i < j
  | .rule _, .component | .rule _, .darkMode | .component, .darkMode => True
  | _, _ => False

namespace Configuration

variable (config : Configuration) (element : Element)

/-! ## The declaration -/

/-- The tokens that a text gives the element, none unless it is a rule that the element meets. -/
def textTokens (text : Text) : List Text :=
  match Rule.parse text with
  | .ok rule => if element.meets rule then config.tokens element.tag rule.paintText .base else []
  | .error _ => []

/-- The tokens of the rule at a position of the configuration. -/
def ruleTokens (index : Nat) : List Text :=
  match config.rules[index]? with
  | some text => config.textTokens element text
  | none => []

/-- The tokens of the entry that a map has for the element's component. -/
def entryTokens (paints : NameMap Text) (variant : Variant) : List Text :=
  match paints[element.component]? with
  | some paintText => config.tokens element.tag paintText variant
  | none => []

def componentTokens : List Text := config.entryTokens element config.components .base

def darkTokens : List Text := config.entryTokens element config.darkMode .dark

def ruleIndices : List Nat := List.range config.rules.length

/-- Whether no rule gives the element a token. -/
def isUnruled : Bool := config.ruleIndices.all fun index => config.ruleTokens element index = []

/-- All rules in order, the component's paint only where no rule gave a token, and the dark paint. -/
def cascaded : Resolution where
  tokens :=
    config.ruleIndices.flatMap (config.ruleTokens element) ++
      (if config.isUnruled element then config.componentTokens element else []) ++
      config.darkTokens element
  sources :=
    (config.ruleIndices.filter fun index => config.ruleTokens element index ≠ []).map .rule ++
      (if config.isUnruled element ∧ config.componentTokens element ≠ [] then [.component] else []) ++
      if config.darkTokens element ≠ [] then [.darkMode] else []

variable {config element}

theorem textTokens_of_error {text : Text} {error : RuleError} (h : Rule.parse text = .error error) :
    config.textTokens element text = [] := by
  simp only [textTokens, h]

theorem textTokens_of_ok {text : Text} {rule : Rule} (h : Rule.parse text = .ok rule) :
    config.textTokens element text =
      if element.meets rule then config.tokens element.tag rule.paintText .base else [] := by
  simp only [textTokens, h]

theorem ruleTokens_of_some {index : Nat} {text : Text} (h : config.rules[index]? = some text) :
    config.ruleTokens element index = config.textTokens element text := by
  simp only [ruleTokens, h]

theorem entryTokens_of_some {paints : NameMap Text} {variant : Variant} {paintText : Text}
    (h : paints[element.component]? = some paintText) :
    config.entryTokens element paints variant = config.tokens element.tag paintText variant := by
  simp only [entryTokens, h]

theorem entryTokens_of_none {paints : NameMap Text} {variant : Variant}
    (h : paints[element.component]? = none) : config.entryTokens element paints variant = [] := by
  simp only [entryTokens, h]

theorem ruleTokens_of_length_le {index : Nat} (h : config.rules.length ≤ index) :
    config.ruleTokens element index = [] := by
  simp [ruleTokens, List.getElem?_eq_none h]

theorem isUnruled_iff : config.isUnruled element ↔ ∀ index, config.ruleTokens element index = [] := by
  simp only [isUnruled, ruleIndices, List.all_eq_true, List.mem_range, decide_eq_true_eq]
  constructor
  · intro h index
    by_cases hlt : index < config.rules.length
    · exact h index hlt
    · exact ruleTokens_of_length_le (Nat.le_of_not_lt hlt)
  · intro h index _
    exact h index

theorem cascaded_tokens_of_unruled (h : ∀ index, config.ruleTokens element index = []) :
    (config.cascaded element).tokens =
      config.componentTokens element ++ config.darkTokens element := by
  have hrules : config.ruleIndices.flatMap (config.ruleTokens element) = [] :=
    List.flatMap_eq_nil_iff.mpr fun index _ => h index
  simp only [cascaded, hrules, isUnruled_iff.mpr h, if_true, List.nil_append]

/-! ## The sources of the declared cascade -/

theorem rule_mem_cascaded {index : Nat} :
    .rule index ∈ (config.cascaded element).sources ↔ config.ruleTokens element index ≠ [] := by
  have hlt : config.ruleTokens element index ≠ [] → index < config.rules.length := by
    intro h
    exact Nat.lt_of_not_le fun hle => h (ruleTokens_of_length_le hle)
  simpa [cascaded, ruleIndices] using hlt

theorem component_mem_cascaded :
    .component ∈ (config.cascaded element).sources ↔
      (∀ index, config.ruleTokens element index = []) ∧ config.componentTokens element ≠ [] := by
  rw [← isUnruled_iff]
  simp [cascaded]

theorem darkMode_mem_cascaded :
    .darkMode ∈ (config.cascaded element).sources ↔ config.darkTokens element ≠ [] := by
  simp [cascaded]

theorem cascaded_pairwise : (config.cascaded element).sources.Pairwise Source.Precedes := by
  have hrules : (config.ruleIndices.filter fun index => config.ruleTokens element index ≠ []).Pairwise
      (· < ·) := List.Pairwise.filter _ List.pairwise_lt_range
  refine List.pairwise_append.mpr ⟨List.pairwise_append.mpr ⟨?_, ?_, ?_⟩, ?_, ?_⟩
  · exact List.pairwise_map.mpr hrules
  · split <;> simp
  · intro first hfirst second hsecond
    obtain ⟨index, -, rfl⟩ := List.mem_map.mp hfirst
    obtain rfl : second = .component := by simpa using (List.mem_ite_nil_right.mp hsecond).2
    trivial
  · split <;> simp
  · intro first hfirst second hsecond
    obtain rfl : second = .darkMode := by simpa using (List.mem_ite_nil_right.mp hsecond).2
    rcases List.mem_append.mp hfirst with hfirst | hfirst
    · obtain ⟨index, -, rfl⟩ := List.mem_map.mp hfirst
      trivial
    · obtain rfl : first = .component := by simpa using (List.mem_ite_nil_right.mp hfirst).2
      trivial

end Configuration

/-! ## Contributions -/

namespace Resolution

/-- Contributions without a token leave no trace in a resolution. -/
def effective (l : List Contribution) : List Contribution := l.filter (·.tokens ≠ [])

theorem effective_cons_of_nil {contribution : Contribution} (h : contribution.tokens = [])
    (l : List Contribution) : effective (contribution :: l) = effective l := by
  simp [effective, h]

theorem effective_cons_congr (contribution : Contribution) {l k : List Contribution}
    (h : effective l = effective k) : effective (contribution :: l) = effective (contribution :: k) := by
  simp only [effective] at h
  simp only [effective, List.filter_cons, h]

theorem effective_append (l k : List Contribution) :
    effective (l ++ k) = effective l ++ effective k := List.filter_append ..

theorem effective_eq_nil_iff {l : List Contribution} :
    effective l = [] ↔ l.all (·.tokens = []) = true := by
  simp [effective]

theorem ofContributions_effective (l : List Contribution) :
    ofContributions (effective l) = ofContributions l := by
  have htokens : (effective l).flatMap Contribution.tokens = l.flatMap Contribution.tokens := by
    induction l with
    | nil => rfl
    | cons contribution l ih =>
        by_cases h : contribution.tokens = []
        · simpa [effective, h] using ih
        · simpa [effective, h] using ih
  have hsources : (effective l).filter (·.tokens ≠ []) = effective l := by
    simp [effective, List.filter_filter]
  simp only [ofContributions, htokens, hsources]
  rfl

theorem ofContributions_congr {l k : List Contribution} (h : effective l = effective k) :
    ofContributions l = ofContributions k := by
  rw [← ofContributions_effective l, h, ofContributions_effective]

end Resolution

namespace Configuration

open Resolution

variable {config : Configuration} {element : Element}

/-- What a rule of the book gives the element that meets it. -/
def ruleContribution (config : Configuration) (element : Element) (entry : Nat × Rule) :
    Contribution :=
  ⟨.rule entry.1, config.tokens element.tag entry.2.paintText .base⟩

/-- What the rules of a book give the element. -/
def bookContributions (config : Configuration) (element : Element) (rules : List (Nat × Rule)) :
    List Contribution :=
  (rules.filter fun entry => element.meets entry.2).map (config.ruleContribution element)

theorem bookContributions_cons (entry : Nat × Rule) (rules : List (Nat × Rule)) :
    config.bookContributions element (entry :: rules) =
      if element.meets entry.2 then
        config.ruleContribution element entry :: config.bookContributions element rules
      else config.bookContributions element rules := by
  by_cases h : element.meets entry.2 = true
  · simp [bookContributions, h]
  · simp [bookContributions, h]

theorem effective_bookContributions (entries : List (Text × Nat)) :
    effective (config.bookContributions element (entries.filterMap RuleBook.rule?)) =
      effective (entries.map fun entry => ⟨.rule entry.2, config.textTokens element entry.1⟩) := by
  induction entries with
  | nil => rfl
  | cons entry entries ih =>
      obtain ⟨text, index⟩ := entry
      rw [List.map_cons]
      cases hparse : Rule.parse text with
      | error error =>
          have hrule : RuleBook.rule? (text, index) = none := by simp only [RuleBook.rule?, hparse]
          rw [effective_cons_of_nil (textTokens_of_error hparse), List.filterMap_cons_none hrule, ih]
      | ok rule =>
          have hrule : RuleBook.rule? (text, index) = some (index, rule) := by
            simp only [RuleBook.rule?, hparse]
          rw [List.filterMap_cons_some hrule, textTokens_of_ok hparse, bookContributions_cons]
          split
          · exact effective_cons_congr _ ih
          · rw [effective_cons_of_nil rfl, ih]

/-- What the positions of the configured rules give the element. -/
def indexContributions (config : Configuration) (element : Element) : List Contribution :=
  config.ruleIndices.map fun index => ⟨.rule index, config.ruleTokens element index⟩

/-- What the configured rules give the element, in the order of their book. -/
def ruleContributions (config : Configuration) (element : Element) : List Contribution :=
  config.bookContributions element (RuleBook.ofTexts config.rules).rules

theorem effective_ruleContributions :
    effective (config.ruleContributions element) = effective (config.indexContributions element) := by
  rw [ruleContributions, RuleBook.ofTexts, effective_bookContributions, indexContributions, ruleIndices,
    List.range_eq_range', ← List.zipIdx_map_snd, List.map_map]
  congr 1
  refine List.map_congr_left fun entry hentry => ?_
  have htext := List.mem_zipIdx_iff_getElem?.mp hentry
  simp [ruleTokens, htext]

/-- What the entry of a map gives the element, if there is one. -/
def entryContributions (config : Configuration) (element : Element) (source : Source)
    (variant : Variant) (entry : Option Text) : List Contribution :=
  entry.toList.map fun paintText => ⟨source, config.tokens element.tag paintText variant⟩

theorem effective_entryContributions (source : Source) (variant : Variant) (paints : NameMap Text) :
    effective (config.entryContributions element source variant paints[element.component]?) =
      effective [⟨source, config.entryTokens element paints variant⟩] := by
  cases h : paints[element.component]? with
  | none => rw [entryTokens_of_none h]; rfl
  | some paintText => rw [entryTokens_of_some h]; rfl

/-- The declared cascade lists the contributions that have a token. -/
theorem ofContributions_declared :
    ofContributions (config.indexContributions element ++
        (if config.isUnruled element then [⟨.component, config.componentTokens element⟩] else []) ++
        [⟨.darkMode, config.darkTokens element⟩]) = config.cascaded element := by
  have hindex : (config.indexContributions element).flatMap Contribution.tokens =
      config.ruleIndices.flatMap (config.ruleTokens element) := by
    rw [indexContributions, List.flatMap_map]
  have hsources : ((config.indexContributions element).filter (·.tokens ≠ [])).map
      Contribution.source =
        (config.ruleIndices.filter fun index => config.ruleTokens element index ≠ []).map .rule := by
    rw [indexContributions, List.filter_map, List.map_map]
    rfl
  simp only [ofContributions, cascaded, List.flatMap_append, List.filter_append, List.map_append,
    hindex, hsources]
  by_cases hunruled : config.isUnruled element = true
  · by_cases hcomponent : config.componentTokens element = [] <;>
      by_cases hdark : config.darkTokens element = [] <;> simp [hunruled, hcomponent, hdark]
  · by_cases hdark : config.darkTokens element = [] <;> simp [hunruled, hdark]

theorem ruleContributions_all_nil :
    (config.ruleContributions element).all (·.tokens = []) = config.isUnruled element := by
  rw [Bool.eq_iff_iff, ← effective_eq_nil_iff, effective_ruleContributions, effective_eq_nil_iff,
    indexContributions, List.all_map]
  rfl

/-- So do the contributions of the book and of the entries. -/
theorem ofContributions_sourced :
    ofContributions
        (config.ruleContributions element ++
          (if config.isUnruled element then
            config.entryContributions element .component .base config.components[element.component]?
          else []) ++
          config.entryContributions element .darkMode .dark config.darkMode[element.component]?) =
      config.cascaded element := by
  rw [← ofContributions_declared]
  apply ofContributions_congr
  rw [effective_append, effective_append, effective_append, effective_append,
    effective_ruleContributions, effective_entryContributions]
  split
  · rw [effective_entryContributions]
    rfl
  · rfl

/-! ## Resolving -/

variable {σ : Type} {inv : σ → Prop} {supply : Cascade.Supplier σ}

/-- The supplier answers with the configured tokens of the element's tag and keeps the invariant. -/
def IsSupplied (config : Configuration) (element : Element) (inv : σ → Prop)
    (supply : Cascade.Supplier σ) : Prop :=
  ∀ paintText variant,
    Traced.Yields inv (supply paintText variant) (config.tokens element.tag paintText variant)

theorem IsSupplied.yields_fromRules (h : config.IsSupplied element inv supply)
    (rules : List (Nat × Rule)) :
    Traced.Yields inv (Cascade.fromRules supply element rules)
      (config.bookContributions element rules) := by
  refine Traced.yields_mapM fun entry _ => ?_
  exact (h entry.2.paintText .base).bind ((Traced.yields_note _).bind (Traced.yields_pure _))

theorem IsSupplied.yields_fromEntry (h : config.IsSupplied element inv supply) (source : Source)
    (variant : Variant) (entry : Option Text) :
    Traced.Yields inv (Cascade.fromEntry supply source variant entry)
      (config.entryContributions element source variant entry) := by
  cases entry with
  | none => exact Traced.yields_pure []
  | some paintText => exact (h paintText variant).bind (Traced.yields_pure _)

/-- Resolving gives the declared cascade, whatever supplies the configured tokens. -/
theorem IsSupplied.yields_resolveWith (h : config.IsSupplied element inv supply) :
    Traced.Yields inv ((Cascade.ofConfiguration config).resolveWith supply element)
      (config.cascaded element) := by
  rw [← ofContributions_sourced]
  have hrules : Traced.Yields inv
      (Cascade.fromRules supply element (Cascade.ofConfiguration config).book.rules)
      (config.ruleContributions element) := h.yields_fromRules _
  -- the steps after the component's, which are taken with and without its contribution
  have hdark : ∀ component, Traced.Yields inv
      (do
        let dark ← Cascade.fromEntry supply .darkMode .dark config.darkMode[element.component]?
        return ofContributions (config.ruleContributions element ++ component ++ dark))
      (ofContributions (config.ruleContributions element ++ component ++
        config.entryContributions element .darkMode .dark config.darkMode[element.component]?)) :=
    fun component => (h.yields_fromEntry _ _ _).bind (Traced.yields_pure _)
  refine hrules.bind ?_
  simp only [Cascade.ofConfiguration, ruleContributions_all_nil]
  by_cases hunruled : config.isUnruled element = true
  · rw [if_pos hunruled, if_pos hunruled]
    exact (h.yields_fromEntry _ _ _).bind (hdark _)
  · rw [if_neg hunruled, if_neg hunruled]
    exact (Traced.yields_pure []).bind (hdark [])

end Configuration

end ThemeCascade
