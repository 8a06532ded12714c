import ThemeCascade.Configuration.Loading
import ThemeCascade.Proofs.Configuration.Decoding
import ThemeCascade.Proofs.Json.Writing

/-! # Reading configurations back

A configuration is read back from every text that writes its value: with any space, with any escapes, and
with the members of the configuration, of its sections and of its themes in any order. -/

namespace ThemeCascade

open Json List

/-! ## Values -/

theorem Theme.isDistinct_value (theme : Theme) : theme.value.IsDistinct := by
  apply Value.IsDistinct.object
  · simp
  · simp only [forall_mem_cons]
    exact ⟨.text, .text, .text, .text, forall_mem_nil _⟩

namespace Configuration

theorem isDistinct_sectionValue {α : Type} {value : α → Value} (h : ∀ a, (value a).IsDistinct)
    (entries : NameMap α) : (sectionValue value entries).IsDistinct := by
  apply Value.IsDistinct.object
  · rw [map_map]
    exact entries.nodup_toList
  · rintro _ hmem
    obtain ⟨entry, -, rfl⟩ := mem_map.mp hmem
    exact h entry.2

theorem isDistinct_value (config : Configuration) : config.value.IsDistinct := by
  have hrules : (Value.list (config.rules.map Value.text)).IsDistinct := by
    apply Value.IsDistinct.list
    rintro _ hmem
    obtain ⟨rule, -, rfl⟩ := mem_map.mp hmem
    exact .text
  have hentries (entries : NameMap Text) : (sectionValue Value.text entries).IsDistinct :=
    isDistinct_sectionValue (fun _ => .text) entries
  apply Value.IsDistinct.object
  · simp
  · simp only [forall_mem_cons]
    exact ⟨isDistinct_sectionValue Theme.isDistinct_value _, hentries _, hrules, hentries _, forall_mem_nil _⟩

theorem recovers (config : Configuration) : Configuration.fields.reader.Recovers config.value config :=
  ignoresOrder.recovers decodes config.isDistinct_value config.decode_value

end Configuration

/-! ## Texts -/

def Theme.compact (theme : Theme) : Text :=
  compactObject
    [ ("main".toList, compactString theme.main), ("light".toList, compactString theme.light),
      ("dark".toList, compactString theme.dark), ("text".toList, compactString theme.text) ]

theorem Theme.writes_compact (theme : Theme) : Writes theme.value theme.compact :=
  writes_compactObject <|
    .cons (.intro (writes_compactString theme.main)) <|
    .cons (.intro (writes_compactString theme.light)) <|
    .cons (.intro (writes_compactString theme.dark)) <|
    .cons (.intro (writes_compactString theme.text)) .nil

namespace Configuration

def compactSection {α : Type} (compact : α → Text) (entries : NameMap α) : Text :=
  compactObject (entries.toList.map fun (name, a) => (name, compact a))

theorem writes_compactSection {α : Type} {value : α → Value} {compact : α → Text}
    (h : ∀ a, Writes (value a) (compact a)) (entries : NameMap α) :
    Writes (sectionValue value entries) (compactSection compact entries) := by
  apply writes_compactObject
  rw [forall₂_map_left_iff, forall₂_map_right_iff, forall₂_same]
  exact fun entry _ => .intro (h entry.2)

/-- The compact text of a configuration. -/
def compact (config : Configuration) : Text :=
  compactObject
    [ ("colors".toList, compactSection Theme.compact config.themes),
      ("components".toList, compactSection compactString config.components),
      ("rules".toList, compactList (config.rules.map compactString)),
      ("darkMode".toList, compactSection compactString config.darkMode) ]

theorem writes_compact (config : Configuration) : Writes config.value config.compact := by
  have hrules : Forall₂ Writes (config.rules.map Value.text) (config.rules.map compactString) := by
    rw [forall₂_map_left_iff, forall₂_map_right_iff, forall₂_same]
    exact fun rule _ => writes_compactString rule
  exact writes_compactObject <|
    .cons (.intro (writes_compactSection Theme.writes_compact config.themes)) <|
    .cons (.intro (writes_compactSection writes_compactString config.components)) <|
    .cons (.intro (writes_compactList hrules)) <|
    .cons (.intro (writes_compactSection writes_compactString config.darkMode)) .nil

/-- Every configuration has a text, and whatever text writes its value, its members in any order, is read for
that configuration. -/
theorem ofDocument_inverts_value (config : Configuration) (path : Text) :
    WritesDocument config.value config.compact ∧
      ∀ value t, config.value.Reordered value → WritesDocument value t →
        ofDocument t path = .ok (config, config.warnings) := by
  refine ⟨config.writes_compact.document, ?_⟩
  intro value t hvalue ht
  have hparse : parse t = .ok config := config.recovers.document hvalue ht
  simp only [ofDocument, hparse]

/-- Two sections have changed places, and a letter is written by its number. -/
theorem ofDocument_inverts_value_reordered :
    ofDocument
        ("\x7b\"components\":\x7b\"\\\"\":\"\\u0061\"\x7d," ++
          "\"colors\":\x7b\x7d,\"rules\":[],\"darkMode\":\x7b\x7d\x7d").toList [] =
      .ok (empty.withComponent ['"'] ['a'], (empty.withComponent ['"'] ['a']).warnings) := by
  have hpaint : Writes (.text ['a']) "\"\\u0061\"".toList :=
    .text (.char (.unit (writesUnit_of_lt (by decide))) .close)
  have hwrites : Writes
      (.object
        [ ("components".toList, sectionValue Value.text (empty.withComponent ['"'] ['a']).components),
          ("colors".toList, sectionValue Theme.value ∅), ("rules".toList, .list []),
          ("darkMode".toList, sectionValue Value.text ∅) ])
      (compactObject
        [ ("components".toList, compactObject [(['"'], "\"\\u0061\"".toList)]),
          ("colors".toList, compactSection Theme.compact ∅), ("rules".toList, compactList []),
          ("darkMode".toList, compactSection compactString ∅) ]) :=
    writes_compactObject <|
      .cons (.intro (writes_compactObject (.cons (.intro hpaint) .nil))) <|
      .cons (.intro (writes_compactSection Theme.writes_compact ∅)) <|
      .cons (.intro (writes_compactList .nil)) <|
      .cons (.intro (writes_compactSection writes_compactString ∅)) .nil
  have hreordered := Value.Reordered.object
    (Value.reorderedMembers_refl
      [ ("colors".toList, sectionValue Theme.value ∅),
        ("components".toList, sectionValue Value.text (empty.withComponent ['"'] ['a']).components),
        ("rules".toList, .list []), ("darkMode".toList, sectionValue Value.text ∅) ])
    (.swap _ _ _)
  exact (ofDocument_inverts_value (empty.withComponent ['"'] ['a']) []).2 _ _ hreordered hwrites.document

end Configuration

end ThemeCascade
