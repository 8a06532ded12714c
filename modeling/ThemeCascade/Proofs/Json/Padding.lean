import ThemeCascade.Proofs.Json.Reordering

/-! # Members that say nothing

A record may be written with members that make no difference to what is shown of it: members of names
that it does not know, with any value, and `null` for a field that is not given. -/

namespace ThemeCascade.Json

open List

variable {σ τ : Type}

/-- The second object has one more member, which says nothing: it is of a name that is not known, or it
gives `null` for a known name that no other member has. -/
inductive Padded (names : List Text) : List (Text × Value) → List (Text × Value) → Prop where
  | unknown {before after : List (Text × Value)} {name : Text} {value : Value} : name ∉ names →
      Padded names (before ++ after) (before ++ (name, value) :: after)
  | null {before after : List (Text × Value)} {name : Text} : name ∈ names →
      name ∉ (before ++ after).map Prod.fst →
      Padded names (before ++ after) (before ++ (name, .null) :: after)

namespace Schema

/-- The view shows no more of a record than its fields say: the fields change different parts of the
record, no field tells apart records that look alike, and `null` cannot be told from a missing field. -/
structure IsShownBy (schema : Schema σ) (view : σ → τ) : Prop where
  commutes : schema.fields.Pairwise fun entry entry' => entry.2.Commutes entry'.2
  congr : ∀ entry ∈ schema.fields, ∀ ⦃value f⦄, entry.2 value = some f →
    ∀ ⦃record record'⦄, view record = view record' → view (f record) = view (f record')
  null : ∀ entry ∈ schema.fields,
    ∃ f, entry.2 .null = some f ∧ view (f schema.blank) = view schema.blank

variable {schema : Schema σ} {view : σ → τ} {name : Text} {decode : Decoder (σ → σ)} {value : Value}
  {members : List (Text × Value)}

theorem congr_of_map {α : Type} {decode : Decoder α} {f : α → σ → σ}
    (h : ∀ a ⦃record record'⦄, view record = view record' → view (f a record) = view (f a record')) :
    ∀ ⦃value g⦄, decode.map f value = some g →
      ∀ ⦃record record'⦄, view record = view record' → view (g record) = view (g record') := by
  intro value g hg
  obtain ⟨a, -, rfl⟩ := Option.map_eq_some_iff.mp hg
  exact h a

/-- Records that look alike do so after the same changes, too. -/
theorem IsShownBy.view_changed (h : schema.IsShownBy view) {changes : List (Change σ)}
    (hmakes : ∀ change ∈ changes, schema.Makes change) {record record' : σ}
    (hview : view record = view record') : view (changed record changes) = view (changed record' changes) := by
  induction changes generalizing record record' with
  | nil => exact hview
  | cons change changes ih =>
      rw [forall_mem_cons] at hmakes
      obtain ⟨⟨decode, value, hmem, hf⟩, hmakes⟩ := hmakes
      exact ih hmakes (h.congr _ hmem hf hview)

/-- The record that the other members make of one that the first member has changed. -/
theorem decode_cons (hlookup : schema.fields.lookup name = some decode) {f : σ → σ}
    (hf : decode value = some f) :
    schema.decode (.object ((name, value) :: members)) =
      (collect (members.filterMap schema.change?)).bind fun changes =>
        if name ∉ changes.map Prod.fst ∧ (changes.map Prod.fst).Nodup then
          some (changed (f schema.blank) changes)
        else none := by
  have hchange : schema.change? (name, value) = some (some (name, f)) := by
    simp [change?, hlookup, Decoder.entry, hf]
  rw [Schema.decode, filterMap_cons_some hchange, collect, Option.bind_some, Option.bind_map]
  simp only [Function.comp_def, map_cons, nodup_cons]
  rfl

theorem decode_cons_of_none (hlookup : schema.fields.lookup name = some decode) (hvalue : decode value = none) :
    schema.decode (.object ((name, value) :: members)) = none := by
  have hchange : schema.change? (name, value) = some none := by
    simp [change?, hlookup, Decoder.entry, hvalue]
  rw [Schema.decode, filterMap_cons_some hchange, collect]
  rfl

theorem decode_cons_of_unknown (hlookup : schema.fields.lookup name = none) :
    schema.decode (.object ((name, value) :: members)) = schema.decode (.object members) := by
  have hchange : schema.change? (name, value) = none := by simp [change?, hlookup]
  rw [Schema.decode, Schema.decode, filterMap_cons_none hchange]

namespace IsShownBy

theorem decode_cons_of_null (h : schema.IsShownBy view) (hlookup : schema.fields.lookup name = some decode)
    (hname : name ∉ members.map Prod.fst) :
    (schema.decode (.object ((name, .null) :: members))).map view =
      (schema.decode (.object members)).map view := by
  obtain ⟨f, hf, hview⟩ := h.null _ (mem_of_lookup hlookup)
  rw [decode_cons hlookup hf, Schema.decode, Option.map_bind, Option.map_bind]
  refine Option.bind_congr fun changes hchanges => ?_
  have hnew : name ∉ changes.map Prod.fst := by
    rintro hmem
    obtain ⟨change, hchange, rfl⟩ := mem_map.mp hmem
    exact hname (exists_member hchanges hchange).1
  have hchanged := h.view_changed (fun _ hchange => (exists_member hchanges hchange).2) hview
  by_cases hnodup : (changes.map Prod.fst).Nodup
  · simp [hnew, hnodup, hchanged]
  · simp [hnodup]

/-- Values that are decoded alike, as far as the view shows, may be put in one another's place. -/
theorem decode_cons_congr {α β : Type} {decode : Decoder α} {f : α → σ → σ} {g : α → β}
    (h : schema.IsShownBy view) (hlookup : schema.fields.lookup name = some (decode.map f))
    (hf : ∀ a a', g a = g a' → ∀ record, view (f a record) = view (f a' record)) {value value' : Value}
    (hvalue : decode.map g value' = decode.map g value) :
    (schema.decode (.object ((name, value') :: members))).map view =
      (schema.decode (.object ((name, value) :: members))).map view := by
  cases ha : decode value with
  | none =>
      have ha' : decode value' = none := by simpa [Decoder.map, ha] using hvalue
      have hnone : decode.map f value = none := by simp [Decoder.map, ha]
      have hnone' : decode.map f value' = none := by simp [Decoder.map, ha']
      rw [decode_cons_of_none hlookup hnone, decode_cons_of_none hlookup hnone']
  | some a =>
      obtain ⟨a', ha', hg⟩ : ∃ a', decode value' = some a' ∧ g a' = g a := by
        simpa [Decoder.map, ha] using hvalue
      have hset : decode.map f value = some (f a) := by simp [Decoder.map, ha]
      have hset' : decode.map f value' = some (f a') := by simp [Decoder.map, ha']
      rw [decode_cons hlookup hset, decode_cons hlookup hset', Option.map_bind, Option.map_bind]
      refine Option.bind_congr fun changes hchanges => ?_
      have hchanged := h.view_changed (fun _ hchange => (exists_member hchanges hchange).2)
        (hf a' a hg schema.blank)
      simp only [Function.comp_apply]
      split
      · rw [Option.map_some, Option.map_some, hchanged]
      · rfl

/-- What a member says nothing of is shown as it was. -/
theorem decode_padded (h : schema.IsShownBy view) {members' : List (Text × Value)}
    (hpadded : Padded (schema.fields.map Prod.fst) members members') :
    (schema.decode (.object members')).map view = (schema.decode (.object members)).map view := by
  cases hpadded with
  | @unknown before after name value hname =>
      have hlookup : schema.fields.lookup name = none := by
        rw [lookup_eq_none_iff]
        intro entry hmem
        simpa using fun heq : name = entry.1 => hname (heq ▸ mem_map_of_mem hmem)
      rw [← decode_perm h.commutes perm_middle, decode_cons_of_unknown hlookup]
  | @null before after name hname hnew =>
      obtain ⟨entry, hmem, rfl⟩ := mem_map.mp hname
      obtain ⟨decode, hlookup⟩ := Option.isSome_iff_exists.mp
        (lookup_isSome_iff.mpr ⟨entry, hmem, beq_self_eq_true _⟩)
      rw [← decode_perm h.commutes perm_middle, h.decode_cons_of_null hlookup hnew]

end IsShownBy

end Schema

end ThemeCascade.Json
