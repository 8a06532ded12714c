import ThemeCascade.Configuration.Document
import ThemeCascade.Configuration.Encoding
import ThemeCascade.Proofs.Json.Reordering

/-! # Decoding configurations

What a document means is what its value is decoded to, in whatever way the value is written and in
whatever order its members are. -/

namespace ThemeCascade

open Json List

variable {α β : Type}

/-! ## Name maps -/

namespace NameMap

/-- Entries of distinct names are all in the map that is made from them. -/
theorem getElem?_ofList_eq_some_iff {entries : List (Text × α)} (h : (entries.map Prod.fst).Nodup)
    {name : Text} {a : α} : (Std.ExtTreeMap.ofList entries)[name]? = some a ↔ (name, a) ∈ entries := by
  have hdistinct : entries.Pairwise fun entry entry' => ¬ compare entry.1 entry'.1 = .eq :=
    (pairwise_map.mp h).imp fun hne heq => hne (Std.LawfulEqCmp.compare_eq_iff_eq.mp heq)
  have hget {b : α} (hmem : (name, b) ∈ entries) : (Std.ExtTreeMap.ofList entries)[name]? = some b :=
    Std.ExtTreeMap.getElem?_ofList_of_mem Std.ReflCmp.compare_self hdistinct hmem
  refine ⟨fun ha => ?_, hget⟩
  by_cases hname : name ∈ entries.map Prod.fst
  · obtain ⟨⟨_, b⟩, hmem, rfl⟩ := mem_map.mp hname
    rw [hget hmem] at ha
    obtain rfl := Option.some.inj ha
    exact hmem
  · rw [Std.ExtTreeMap.getElem?_ofList_of_contains_eq_false (by simpa using hname)] at ha
    cases ha

/-- A map is made from entries of distinct names in any order. -/
theorem ofList_perm {entries entries' : List (Text × α)} (h : (entries.map Prod.fst).Nodup)
    (hperm : entries ~ entries') :
    (Std.ExtTreeMap.ofList entries' : NameMap α) = Std.ExtTreeMap.ofList entries := by
  apply Std.ExtTreeMap.ext_getElem?
  intro name
  apply Option.ext
  intro a
  rw [getElem?_ofList_eq_some_iff h, hperm.mem_iff,
    getElem?_ofList_eq_some_iff ((hperm.map Prod.fst).nodup_iff.mp h)]

theorem nodup_toList (m : NameMap α) : (m.toList.map Prod.fst).Nodup := by
  rw [Nodup, pairwise_map]
  exact m.distinct_keys_toList.imp fun hne heq => hne (Std.LawfulEqCmp.compare_eq_iff_eq.mpr heq)

theorem ofList_toList (m : NameMap α) : Std.ExtTreeMap.ofList m.toList = m := by
  apply Std.ExtTreeMap.ext_getElem?
  intro name
  apply Option.ext
  intro a
  rw [getElem?_ofList_eq_some_iff m.nodup_toList, Std.ExtTreeMap.mem_toList_iff_getElem?_eq_some]

end NameMap

/-! ## Themes -/

namespace Theme

def schema : Schema Theme where
  blank := {}
  fields :=
    [ ("main".toList, (Decoder.text.orNull []).map fun literal theme => { theme with main := literal }),
      ("light".toList, (Decoder.text.orNull []).map fun literal theme => { theme with light := literal }),
      ("dark".toList, (Decoder.text.orNull []).map fun literal theme => { theme with dark := literal }),
      ("text".toList, (Decoder.text.orNull []).map fun literal theme => { theme with text := literal }) ]

theorem decodes : Theme.fields.reader.Decodes Theme.schema.decode := by
  have hliteral := Reader.decodes_text.orNull []
  exact Fields.decodes rfl <|
    .cons (.of_map hliteral _ _) <| .cons (.of_map hliteral _ _) <| .cons (.of_map hliteral _ _) <|
      .cons (.of_map hliteral _ _) .nil

theorem commutes : Theme.schema.fields.Pairwise fun entry entry' => entry.2.Commutes entry'.2 := by
  simp only [schema, pairwise_cons, forall_mem_cons]
  exact ⟨⟨.of_map fun _ _ _ => rfl, .of_map fun _ _ _ => rfl, .of_map fun _ _ _ => rfl, forall_mem_nil _⟩,
    ⟨.of_map fun _ _ _ => rfl, .of_map fun _ _ _ => rfl, forall_mem_nil _⟩,
    ⟨.of_map fun _ _ _ => rfl, forall_mem_nil _⟩, forall_mem_nil _, .nil⟩

theorem ignoresOrder : Theme.schema.decode.IgnoresOrder := by
  refine Schema.ignoresOrder commutes ?_
  simp only [schema, forall_mem_cons]
  have hliteral := Decoder.ignoresOrder_text.orNull []
  exact ⟨hliteral.map _, hliteral.map _, hliteral.map _, hliteral.map _, forall_mem_nil _⟩

theorem decode_value (theme : Theme) : Theme.schema.decode theme.value = some theme := rfl

end Theme

/-! ## Configurations -/

namespace Configuration

def sectionDecoder (decode : Decoder α) : Decoder (NameMap α) :=
  (decode.object.orNull []).map fun entries => Std.ExtTreeMap.ofList entries

theorem decodes_section {reader : Reader α} {decode : Decoder α} (h : reader.Decodes decode) :
    (sectionReader reader).Decodes (sectionDecoder decode) :=
  (h.object.orNull []).map _

theorem ignoresOrder_section {decode : Decoder α} (h : decode.IgnoresOrder) :
    (sectionDecoder decode).IgnoresOrder := by
  rw [sectionDecoder, Decoder.map_orNull]
  exact (h.object fun _ _ => NameMap.ofList_perm).orNull _

def schema : Schema Configuration where
  blank := {}
  fields :=
    [ ("colors".toList,
        (sectionDecoder Theme.schema.decode).map fun themes config => { config with themes }),
      ("components".toList, (sectionDecoder Decoder.text).map fun components config => { config with components }),
      ("rules".toList, (Decoder.text.list.orNull []).map fun rules config => { config with rules }),
      ("darkMode".toList, (sectionDecoder Decoder.text).map fun darkMode config => { config with darkMode }) ]

theorem decodes : Configuration.fields.reader.Decodes Configuration.schema.decode := by
  have hentries := decodes_section Reader.decodes_text
  exact Fields.decodes rfl <|
    .cons (.of_map (decodes_section Theme.decodes) _ _) <| .cons (.of_map hentries _ _) <|
      .cons (.of_map (Reader.decodes_text.list.orNull []) _ _) <| .cons (.of_map hentries _ _) .nil

theorem commutes : Configuration.schema.fields.Pairwise fun entry entry' => entry.2.Commutes entry'.2 := by
  simp only [schema, pairwise_cons, forall_mem_cons]
  exact ⟨⟨.of_map fun _ _ _ => rfl, .of_map fun _ _ _ => rfl, .of_map fun _ _ _ => rfl, forall_mem_nil _⟩,
    ⟨.of_map fun _ _ _ => rfl, .of_map fun _ _ _ => rfl, forall_mem_nil _⟩,
    ⟨.of_map fun _ _ _ => rfl, forall_mem_nil _⟩, forall_mem_nil _, .nil⟩

theorem ignoresOrder : Configuration.schema.decode.IgnoresOrder := by
  refine Schema.ignoresOrder commutes ?_
  simp only [schema, forall_mem_cons]
  have hentries := ignoresOrder_section Decoder.ignoresOrder_text
  exact ⟨(ignoresOrder_section Theme.ignoresOrder).map _, hentries.map _,
    (Decoder.ignoresOrder_text.list.orNull []).map _, hentries.map _, forall_mem_nil _⟩

/-- A document is read for what its value is decoded to. -/
theorem toOption_parse {value : Value} {t : Text} (ht : WritesDocument value t) :
    (parse t).toOption = schema.decode value :=
  decodes.document ht

/-! ## Decoding what is encoded -/

theorem sectionDecoder_sectionValue {decode : Decoder α} {value : α → Value}
    (h : ∀ a, decode (value a) = some a) (entries : NameMap α) :
    sectionDecoder decode (sectionValue value entries) = some entries := by
  have hentries : (entries.toList.map fun entry => (entry.1, value entry.2)).map decode.entry =
      entries.toList.map some := by
    rw [map_map]
    exact map_congr_left fun entry _ => by simp [Decoder.entry, h]
  change (collect _).map _ = _
  rw [collect_eq_some_iff.mpr hentries, Option.map_some, NameMap.ofList_toList]

theorem decode_value (config : Configuration) : schema.decode config.value = some config := by
  have hentries := sectionDecoder_sectionValue fun t => (rfl : Decoder.text (.text t) = some t)
  have hrules : (Decoder.text.list.orNull []) (.list (config.rules.map Value.text)) = some config.rules := by
    change collect _ = _
    rw [collect_eq_some_iff, map_map]
    rfl
  have hmembers : Forall₂ (fun member change => schema.change? member = some (some change))
      [ ("colors".toList, sectionValue Theme.value config.themes),
        ("components".toList, sectionValue Value.text config.components),
        ("rules".toList, .list (config.rules.map Value.text)),
        ("darkMode".toList, sectionValue Value.text config.darkMode) ] _ :=
    .cons (Schema.change?_of_map rfl (sectionDecoder_sectionValue Theme.decode_value config.themes)) <|
    .cons (Schema.change?_of_map rfl (hentries config.components)) <|
    .cons (Schema.change?_of_map rfl hrules) <|
    .cons (Schema.change?_of_map rfl (hentries config.darkMode)) .nil
  exact Schema.decode_object hmembers (by simp)

end Configuration

end ThemeCascade
