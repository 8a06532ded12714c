import Mathlib.Data.Finset.Card
import Mathlib.Data.Finset.Lattice.Basic
import Mathlib.Data.Finset.SDiff
import ThemeCascade.Proofs.Style.Memory

/-! # What a table is asked for

A table renders a tag, a paint and a variant when they are first asked for together, and never again. So it
has as many entries as different ones were asked for, in whatever order and however often. -/

namespace ThemeCascade.TokenTable

variable {config : Configuration}

/-! ## Keys and requests -/

namespace Key

def tokens (config : Configuration) (key : Key) : List Text :=
  config.tagTokens key.tag key.paintText key.variant

/-- What is logged when the template of the key is rendered. -/
def rendering (config : Configuration) (key : Key) : Event :=
  .tokensStored key.tag key.paintText key.variant (key.tokens config).length

end Key

/-- A tag is asked for by its name, which may not be recognised. -/
structure Request where
  tagName : Text
  paintText : Text
  variant : Variant

namespace Request

def key? (request : Request) : Option Key :=
  (Tag.ofName? request.tagName).map fun tag => ⟨tag, request.variant, request.paintText⟩

/-- The tokens without a table. -/
def tokens (config : Configuration) (request : Request) : List Text :=
  config.tokens request.tagName request.paintText request.variant

def ask (config : Configuration) (request : Request) : Traced TokenTable (List Text) :=
  TokenTable.request config request.tagName request.paintText request.variant

end Request

/-- Asks for one after another, of one table. -/
def askAll (config : Configuration) (requests : List Request) : Traced TokenTable (List (List Text)) :=
  requests.mapM (Request.ask config)

/-- The different keys that are asked for. A tag has one name, so these are the different names of tags with
their paints and variants. -/
def requested (requests : List Request) : Finset Key := (requests.filterMap Request.key?).toFinset

section

variable {request : Request} {requests : List Request} {key : Key}

theorem tokens_of_key?_none (h : request.key? = none) : request.tokens config = [] := by
  simp only [Request.key?, Option.map_eq_none_iff] at h
  simp only [Request.tokens, Configuration.tokens, h]

theorem tokens_of_key?_some (h : request.key? = some key) : request.tokens config = key.tokens config := by
  obtain ⟨tag, htag, rfl⟩ := Option.map_eq_some_iff.mp h
  simp only [Request.tokens, Configuration.tokens, htag, Key.tokens]

theorem mem_requested_iff : key ∈ requested requests ↔ ∃ request ∈ requests, request.key? = some key := by
  simp [requested]

theorem requested_nil : requested [] = ∅ := rfl

theorem requested_cons (request : Request) (requests : List Request) :
    requested (request :: requests) = requested [request] ∪ requested requests := by
  ext key
  simp [mem_requested_iff]

theorem requested_singleton_of_none (h : request.key? = none) : requested [request] = ∅ := by
  simp [requested, h]

theorem requested_singleton_of_some (h : request.key? = some key) : requested [request] = {key} := by
  simp [requested, h]

end

/-! ## What a table holds -/

/-- The table has one entry for each of the keys, with its tokens, and no other. -/
structure Holds (config : Configuration) (seen : Finset Key) (table : TokenTable) : Prop where
  find?_eq : ∀ key, table.find? key = if key ∈ seen then some (key.tokens config) else none
  size_eq : table.size = seen.card

theorem holds_empty (config : Configuration) : Holds config ∅ empty :=
  ⟨fun key => by simp [find?_empty], rfl⟩

section

variable {seen : Finset Key} {table : TokenTable} {key : Key} {request : Request}

theorem Holds.find?_of_mem (h : Holds config seen table) (hkey : key ∈ seen) :
    table.find? key = some (key.tokens config) := by
  rw [h.find?_eq, if_pos hkey]

theorem Holds.find?_of_not_mem (h : Holds config seen table) (hkey : key ∉ seen) :
    table.find? key = none := by
  rw [h.find?_eq, if_neg hkey]

theorem Holds.insert (h : Holds config seen table) (hkey : key ∉ seen) :
    Holds config ({key} ∪ seen) (table.insert key (key.tokens config)) := by
  rw [← Finset.insert_eq]
  constructor
  · intro other
    rw [find?_insert, h.find?_eq]
    by_cases hother : other = key
    · simp [hother]
    · simp [hother]
  · rw [size_insert (h.find?_of_not_mem hkey), h.size_eq, Finset.card_insert_of_notMem hkey]

end

/-! ## What is rendered -/

/-- The events say that the keys were rendered, each of them once. -/
def Renders (config : Configuration) (keys : Finset Key) (events : List Event) : Prop :=
  ∃ order : List Key, order.Nodup ∧ order.toFinset = keys ∧ events = order.map (Key.rendering config)

theorem Renders.nil (config : Configuration) : Renders config ∅ [] := ⟨[], List.nodup_nil, rfl, rfl⟩

theorem Renders.singleton (config : Configuration) (key : Key) :
    Renders config {key} [key.rendering config] :=
  ⟨[key], List.nodup_singleton key, rfl, rfl⟩

theorem Renders.append {keys others : Finset Key} {events further : List Event}
    (h : Renders config keys events) (hfurther : Renders config others further)
    (hdisjoint : Disjoint keys others) : Renders config (keys ∪ others) (events ++ further) := by
  obtain ⟨order, hnodup, rfl, rfl⟩ := h
  obtain ⟨rest, hrest, rfl, rfl⟩ := hfurther
  refine ⟨order ++ rest, hnodup.append hrest ?_, List.toFinset_append, List.map_append.symm⟩
  exact List.disjoint_toFinset_iff_disjoint.mp hdisjoint

/-! ## One request -/

section

variable {seen : Finset Key} {table : TokenTable} {key : Key} {request : Request}

/-- What a request does to a table that holds the keys seen so far. -/
inductive AskDerivation (config : Configuration) (seen : Finset Key) (table : TokenTable) (request : Request) :
    Outcome TokenTable (List Text) → Prop where
  | unrecognised : request.key? = none → AskDerivation config seen table request ⟨[], [], table⟩
  | again {key : Key} : request.key? = some key → key ∈ seen →
      AskDerivation config seen table request ⟨key.tokens config, [], table⟩
  | first {key : Key} : request.key? = some key → key ∉ seen →
      AskDerivation config seen table request
        ⟨key.tokens config, [key.rendering config], table.insert key (key.tokens config)⟩

/-- Only a first request turns to the configuration. -/
theorem Holds.run_ask_again (h : Holds config seen table)
    (hkey : ∀ key, request.key? = some key → key ∈ seen) (other : Configuration) :
    (request.ask other).run table = ⟨request.tokens config, [], table⟩ := by
  cases htag : Tag.ofName? request.tagName with
  | none =>
      have hnone : request.key? = none := by simp [Request.key?, htag]
      rw [tokens_of_key?_none hnone, Request.ask, request_of_unrecognised htag]
  | some tag =>
      have hsome : request.key? = some ⟨tag, request.variant, request.paintText⟩ := by
        simp [Request.key?, htag]
      rw [tokens_of_key?_some hsome, Request.ask,
        request_of_stored htag (h.find?_of_mem (hkey _ hsome))]

theorem Holds.run_ask_first (h : Holds config seen table) (hkey : request.key? = some key)
    (hnew : key ∉ seen) :
    (request.ask config).run table =
      ⟨key.tokens config, [key.rendering config], table.insert key (key.tokens config)⟩ := by
  obtain ⟨tag, htag, rfl⟩ := Option.map_eq_some_iff.mp hkey
  exact request_of_missing htag (h.find?_of_not_mem hnew)

theorem Holds.ask_derivation (h : Holds config seen table) (request : Request) :
    AskDerivation config seen table request ((request.ask config).run table) := by
  cases hkey : request.key? with
  | none =>
      rw [h.run_ask_again (by simp [hkey]) config, tokens_of_key?_none hkey]
      exact .unrecognised hkey
  | some key =>
      by_cases hseen : key ∈ seen
      · rw [h.run_ask_again (by simpa [hkey] using hseen) config, tokens_of_key?_some hkey]
        exact .again hkey hseen
      · rw [h.run_ask_first hkey hseen]
        exact .first hkey hseen

variable {outcome : Outcome TokenTable (List Text)}

theorem AskDerivation.holds (h : AskDerivation config seen table request outcome)
    (htable : Holds config seen table) : Holds config (requested [request] ∪ seen) outcome.memory := by
  cases h with
  | unrecognised hkey => simpa [requested_singleton_of_none hkey] using htable
  | again hkey hseen => simpa [requested_singleton_of_some hkey, Finset.insert_eq_of_mem hseen] using htable
  | first hkey hnew => simpa [requested_singleton_of_some hkey] using htable.insert hnew

theorem AskDerivation.renders (h : AskDerivation config seen table request outcome) :
    Renders config (requested [request] \ seen) outcome.events := by
  cases h with
  | unrecognised hkey =>
      rw [requested_singleton_of_none hkey, Finset.empty_sdiff]
      exact .nil config
  | again hkey hseen =>
      have hnone := Finset.sdiff_eq_empty_iff_subset.mpr (Finset.singleton_subset_iff.mpr hseen)
      rw [requested_singleton_of_some hkey, hnone]
      exact .nil config
  | first hkey hnew =>
      have hall := Finset.sdiff_eq_self_of_disjoint (Finset.disjoint_singleton_left.mpr hnew)
      rw [requested_singleton_of_some hkey, hall]
      exact .singleton config _

end

/-! ## Many requests -/

theorem run_askAll_nil (config : Configuration) (table : TokenTable) :
    (askAll config []).run table = ⟨[], [], table⟩ := rfl

theorem run_askAll_cons (config : Configuration) (request : Request) (requests : List Request)
    (table : TokenTable) :
    (askAll config (request :: requests)).run table =
      let first := (request.ask config).run table
      let rest := (askAll config requests).run first.memory
      ⟨first.answer :: rest.answer, first.events ++ rest.events, rest.memory⟩ := by
  simp only [askAll, List.mapM_cons, Traced.run_bind, Traced.run_pure, List.append_nil]

section

variable {seen : Finset Key} {table : TokenTable}

theorem Holds.askAll (h : Holds config seen table) (requests : List Request) :
    Holds config (requested requests ∪ seen) ((askAll config requests).run table).memory := by
  induction requests generalizing seen table with
  | nil => simpa [requested_nil, run_askAll_nil] using h
  | cons request requests ih =>
      have hfirst := (h.ask_derivation request).holds h
      rw [run_askAll_cons, requested_cons, Finset.union_comm (requested [request]), Finset.union_assoc]
      exact ih hfirst

/-- A key that a request before has entered is not rendered for a later one. -/
theorem Holds.renders_askAll (h : Holds config seen table) (requests : List Request) :
    Renders config (requested requests \ seen) ((TokenTable.askAll config requests).run table).events := by
  induction requests generalizing seen table with
  | nil => simpa [requested_nil, run_askAll_nil] using Renders.nil config
  | cons request requests ih =>
      have hfirst := h.ask_derivation request
      have hrest := ih (hfirst.holds h)
      -- What the later requests render is new to the table that the first one leaves behind.
      have hsplit : requested (request :: requests) \ seen =
          requested [request] \ seen ∪ requested requests \ (requested [request] ∪ seen) := by
        ext key
        rw [requested_cons]
        simp only [Finset.mem_sdiff, Finset.mem_union]
        tauto
      rw [run_askAll_cons, hsplit]
      refine hfirst.renders.append hrest ?_
      rw [Finset.disjoint_left]
      intro key hkey hlater
      exact (Finset.mem_sdiff.mp hlater).2 (Finset.mem_union_left _ (Finset.mem_sdiff.mp hkey).1)

end

theorem yields_askAll (config : Configuration) (requests : List Request) :
    Traced.Yields (Faithful config) (askAll config requests) (requests.map (Request.tokens config)) :=
  Traced.yields_mapM fun request _ =>
    yields_request config request.tagName request.paintText request.variant

/-- A new table that was asked for these. Each of them is answered as without a table, the table has one
entry for each key among them, and each key was rendered once. A further request renders its key if it is
the first one for it, and otherwise is answered without a look at the configuration. -/
structure HistorySpec (config : Configuration) (requests : List Request)
    (outcome : Outcome TokenTable (List (List Text))) : Prop where
  answer_eq : outcome.answer = requests.map (Request.tokens config)
  size_eq : outcome.memory.size = (requested requests).card
  isEmpty_iff : outcome.memory.isEmpty = true ↔ requested requests = ∅
  size_congr : ∀ others : List Request, (∀ request, request ∈ others ↔ request ∈ requests) →
    ((askAll config others).run empty).memory.size = outcome.memory.size
  events_eq : ∃ order : List Key, order.Nodup ∧ order.toFinset = requested requests ∧
    outcome.events = order.map (Key.rendering config)
  first : ∀ (request : Request) (key : Key), request.key? = some key → key ∉ requested requests →
    ((request.ask config).run outcome.memory).events = [key.rendering config]
  again : ∀ request : Request, (∀ key, request.key? = some key → key ∈ requested requests) →
    ∀ other, (request.ask other).run outcome.memory = ⟨request.tokens config, [], outcome.memory⟩

/-- Whatever a table is asked for, it renders each key once, when it is first asked for. -/
theorem askAll_renders_once (config : Configuration) (requests : List Request) :
    HistorySpec config requests ((askAll config requests).run empty) := by
  have hholds : ∀ requests, Holds config (requested requests) ((askAll config requests).run empty).memory := by
    intro requests
    simpa using (holds_empty config).askAll requests
  have hsize : ∀ requests, ((askAll config requests).run empty).memory.size = (requested requests).card :=
    fun requests => (hholds requests).size_eq
  refine ⟨?_, hsize requests, ?_, ?_, ?_, ?_, ?_⟩
  · exact (yields_askAll config requests empty (faithful_empty config)).1
  · rw [isEmpty, hsize, decide_eq_true_iff, Finset.card_eq_zero]
  · intro others hsame
    rw [hsize, hsize]
    congr 1
    ext key
    simp only [mem_requested_iff, hsame]
  · have hrenders := (holds_empty config).renders_askAll requests
    rwa [Finset.sdiff_empty] at hrenders
  · intro request key hkey hnew
    rw [(hholds requests).run_ask_first hkey hnew]
  · intro request hkey other
    exact (hholds requests).run_ask_again hkey other

example :
    let requests : List Request :=
      [ ⟨"a".toList, "missing".toList, .base⟩, ⟨"section".toList, "[red]".toList, .base⟩,
        ⟨"a".toList, "missing".toList, .dark⟩, ⟨"a".toList, "missing".toList, .base⟩ ]
    ((askAll {} requests).run empty).memory.size = 2 := by
  decide

end ThemeCascade.TokenTable
