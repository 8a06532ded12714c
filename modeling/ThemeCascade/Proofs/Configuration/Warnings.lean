import Mathlib.Data.List.SplitBy
import ThemeCascade.Configuration.Loading
import ThemeCascade.Proofs.Configuration.Decoding
import ThemeCascade.Proofs.Style.Liveness

/-! # Warnings of unknown themes

Reading a document looks for themes by itself, without rendering anything. It warns of an entry exactly if the
entry's paint gives no element a token, and once; whatever it does not warn of colors every recognised tag. -/

namespace ThemeCascade

open List

/-! ## Lines of a log -/

theorem arranged_perm (lines : List String) : arranged lines ~ lines := by
  unfold arranged
  calc _ ~ (lines.splitBy fun a b => warnedSection? a = warnedSection? b).flatMap id := by
        refine Perm.flatMap_left _ fun group _ => ?_
        split
        · exact mergeSort_perm _ _
        · exact Perm.refl _
    _ = lines := by rw [flatMap_id, flatten_splitBy]

/-- Lines may be put into another order in the log, but none is lost or written twice. -/
theorem logLines_perm {maximum : Level} {events : List Event}
    (h : ∀ event ∈ events, event.level.rank ≤ maximum.rank) :
    logLines (some maximum) events ~ events.flatMap Event.lines := by
  have hall : (events.filter fun event => (some maximum).any (event.level.rank ≤ ·.rank)) = events :=
    filter_eq_self.mpr (by simpa using h)
  rw [logLines, hall]
  exact arranged_perm _

/-- The lines of an event are its whole text. -/
theorem Event.intercalate_lines (event : Event) :
    "\n".intercalate event.lines = event.heading ++ event.message := by
  rw [← String.toList_inj, String.toList_intercalate, lines, map_map]
  have hlines : String.toList ∘ String.ofList = id := funext fun line => String.toList_ofList
  rw [hlines, map_id]
  exact intercalate_splitOn '\n'

namespace Configuration

/-- The entries of a section. -/
def entries (config : Configuration) : Section → NameMap Text
  | .components => config.components
  | .darkMode => config.darkMode

variable {config : Configuration} {paintText : Text}

/-! ## Paints without a token -/

theorem tokens_all_nil_iff :
    (∀ tagName variant, config.tokens tagName paintText variant = []) ↔ ¬ config.IsLive paintText := by
  constructor
  · intro hnil hlive
    exact tokens_ne_nil_iff.mpr ⟨⟨.div, rfl⟩, hlive⟩ (hnil Tag.div.name .base)
  · intro hdead tagName variant
    exact Decidable.byContradiction fun hne => hdead (tokens_ne_nil_iff.mp hne).2

/-- The search for unknown themes finds the paints that color nothing. -/
theorem unknownTheme?_eq_some_iff {name : Text} :
    config.unknownTheme? paintText = some name ↔ name = paintText ∧ ¬ config.IsLive paintText := by
  cases hpaint : Paint.ofText paintText with
  | custom value =>
      obtain ⟨hvalue, rfl⟩ := Paint.ofText_eq_custom_iff.mp hpaint
      have hlive : config.IsLive ('[' :: (value ++ [']'])) := .custom hvalue
      simp [unknownTheme?, hpaint, hlive]
  | theme theme =>
      obtain ⟨rfl, hname⟩ := Paint.ofText_eq_theme_iff.mp hpaint
      have hlive : config.IsLive paintText ↔ config.themes.contains paintText = true := by
        rw [Std.ExtTreeMap.contains_eq_isSome_getElem?, Option.isSome_iff_exists]
        constructor
        · intro hlive
          cases hlive with
          | custom hvalue => exact absurd rfl (hname _ hvalue)
          | theme _ htheme => exact ⟨_, htheme⟩
        · rintro ⟨theme, htheme⟩
          exact .theme hname htheme
      by_cases hcontains : config.themes.contains paintText = true
      · simp [unknownTheme?, hpaint, hcontains, hlive]
      · simp [unknownTheme?, hpaint, hcontains, hlive, eq_comm]

/-! ## Warnings -/

variable {place : Section} {paints : NameMap Text} {event : Event}

theorem mem_unknownThemes_iff :
    event ∈ config.unknownThemes place paints ↔
      ∃ component paintText, paints[component]? = some paintText ∧ ¬ config.IsLive paintText ∧
        event = .unknownTheme place component paintText := by
  simp only [unknownThemes, mem_filterMap, Prod.exists, Std.ExtTreeMap.mem_toList_iff_getElem?_eq_some,
    Option.map_eq_some_iff, unknownTheme?_eq_some_iff]
  constructor
  · rintro ⟨component, paintText, hentry, _, ⟨rfl, hdead⟩, rfl⟩
    exact ⟨component, _, hentry, hdead, rfl⟩
  · rintro ⟨component, paintText, hentry, hdead, rfl⟩
    exact ⟨component, paintText, hentry, _, ⟨rfl, hdead⟩, rfl⟩

theorem mem_warnings_iff :
    event ∈ config.warnings ↔
      ∃ place component paintText, (config.entries place)[component]? = some paintText ∧
        ¬ config.IsLive paintText ∧ event = .unknownTheme place component paintText := by
  rw [warnings, mem_append, mem_unknownThemes_iff, mem_unknownThemes_iff]
  constructor
  · rintro (h | h)
    · exact ⟨.components, h⟩
    · exact ⟨.darkMode, h⟩
  · rintro ⟨_ | _, h⟩
    · exact .inl h
    · exact .inr h

/-- An event names its entry, and a section has one entry for a name. -/
theorem nodup_unknownThemes (place : Section) (paints : NameMap Text) :
    (config.unknownThemes place paints).Nodup := by
  refine Nodup.filterMap ?_ (Nodup.of_map _ paints.nodup_toList)
  rintro ⟨component, paintText⟩ ⟨component', paintText'⟩ event hevent hevent'
  simp only [Option.mem_def, Option.map_eq_some_iff, unknownTheme?_eq_some_iff] at hevent hevent'
  obtain ⟨_, ⟨rfl, -⟩, rfl⟩ := hevent
  obtain ⟨_, ⟨rfl, -⟩, heq⟩ := hevent'
  obtain ⟨-, rfl, rfl⟩ := Event.unknownTheme.inj heq
  rfl

theorem nodup_warnings (config : Configuration) : config.warnings.Nodup := by
  refine nodup_append.mpr ⟨nodup_unknownThemes _ _, nodup_unknownThemes _ _, ?_⟩
  rintro first hfirst second hsecond rfl
  obtain ⟨_, _, -, -, rfl⟩ := mem_unknownThemes_iff.mp hfirst
  obtain ⟨_, _, -, -, heq⟩ := mem_unknownThemes_iff.mp hsecond
  cases heq

/-- The warnings of a document, one for each entry whose paint gives no element a token in either variant. All
of them are lines of a log that takes warnings, with the section, the component and the theme, and an entry
without one colors every recognised tag. -/
structure WarningSpec (config : Configuration) (events : List Event) : Prop where
  nodup : events.Nodup
  mem_iff : ∀ event, event ∈ events ↔
    ∃ place component paintText, (config.entries place)[component]? = some paintText ∧
      (∀ tagName variant, config.tokens tagName paintText variant = []) ∧
      event = .unknownTheme place component paintText
  logged : ∀ maximum : Level, Level.warn.rank ≤ maximum.rank →
    logLines (some maximum) events ~ events.flatMap Event.lines
  written : ∀ place component theme, .unknownTheme place component theme ∈ events →
    "\n".intercalate (Event.unknownTheme place component theme).lines =
      "[WARN] stylescale::config: " ++
        (place.label ++ "." ++ component.shown ++ " refers to unknown theme `" ++ theme.shown ++ "`")
  tokens_ne_nil : ∀ place component paintText, (config.entries place)[component]? = some paintText →
    .unknownTheme place component paintText ∉ events →
      ∀ (tag : Tag) (variant : Variant), config.tokens tag.name paintText variant ≠ []

theorem warningSpec_warnings (config : Configuration) : WarningSpec config config.warnings := by
  refine ⟨nodup_warnings config, ?_, ?_, ?_, ?_⟩
  · intro event
    simp only [mem_warnings_iff, tokens_all_nil_iff]
  · intro maximum hmaximum
    refine logLines_perm fun event hevent => ?_
    obtain ⟨_, _, _, -, -, rfl⟩ := mem_warnings_iff.mp hevent
    exact hmaximum
  · intro place component theme _
    exact Event.intercalate_lines (.unknownTheme place component theme)
  · intro place component paintText hentry hunwarned tag variant
    refine tokens_ne_nil_iff.mpr ⟨⟨tag, rfl⟩, ?_⟩
    by_contra hdead
    exact hunwarned (mem_warnings_iff.mpr ⟨place, component, paintText, hentry, hdead, rfl⟩)

/-- Every document that is read is warned of for what it could not color, and for nothing else. -/
theorem warningSpec_of_ofDocument {source path : Text} {config : Configuration} {events : List Event}
    (h : ofDocument source path = .ok (config, events)) : WarningSpec config events := by
  obtain ⟨-, rfl⟩ := ofDocument_eq_ok_iff.mp h
  exact warningSpec_warnings config

/-- A bracketed value is no theme even if one has its name; an empty pair and an open bracket are names. -/
theorem warningSpec_of_brackets :
    let source := ("\x7b\"colors\":\x7b\"[a]\":\x7b\x7d,\"[b\":\x7b\x7d\x7d," ++
      "\"components\":\x7b\"A\":\"[a]\",\"B\":\"[b\",\"C\":\"[c\",\"D\":\"\"\x7d," ++
      "\"darkMode\":\x7b\"A\":\"[]\"\x7d\x7d").toList
    let config : Configuration :=
      { themes := Std.ExtTreeMap.ofList [("[a]".toList, ({} : Theme)), ("[b".toList, {})]
        components := Std.ExtTreeMap.ofList
          [(['A'], "[a]".toList), (['B'], "[b".toList), (['C'], "[c".toList), (['D'], [])]
        darkMode := Std.ExtTreeMap.ofList [(['A'], "[]".toList)] }
    let events : List Event :=
      [ .unknownTheme .components ['C'] "[c".toList, .unknownTheme .components ['D'] [],
        .unknownTheme .darkMode ['A'] "[]".toList ]
    ofDocument source [] = .ok (config, events) ∧ WarningSpec config events := by
  intro source config events
  have hread : ofDocument source [] = .ok (config, events) := by decide +kernel
  exact ⟨hread, warningSpec_of_ofDocument hread⟩

end Configuration

end ThemeCascade
