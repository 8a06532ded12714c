import Mathlib.Logic.Relation
import ThemeCascade.Proofs.Cascade.Appearance
import ThemeCascade.Proofs.Configuration.Decoding
import ThemeCascade.Proofs.Json.Padding
import ThemeCascade.Proofs.Json.Writing

/-! # Configurations that are written in another way

A document may be written with its members in another order, with members of names that are not known, and
with `null` for what another document leaves out. Nothing of this is seen in the configuration. -/

namespace ThemeCascade

open Json List

/-! ## Themes -/

namespace Theme

def fieldNames : List Text := ["main".toList, "light".toList, "dark".toList, "text".toList]

/-- The color of a theme does not tell a missing text color from `null`. -/
theorem isShownBy_color : Theme.schema.IsShownBy Theme.color where
  commutes := commutes
  congr := by
    simp only [schema, forall_mem_cons]
    refine ⟨?_, ?_, ?_, ?_, forall_mem_nil _⟩ <;> refine Schema.congr_of_map fun literal theme theme' h => ?_
    all_goals
      have hmain : theme.main = theme'.main := congrFun h .main
      have hlight : theme.light = theme'.light := congrFun h .light
      have hdark : theme.dark = theme'.dark := congrFun h .dark
      have htext : theme.color .text = theme'.color .text := congrFun h .text
      funext role
      cases role <;> first | rfl | assumption
  null := by
    simp only [schema, forall_mem_cons]
    refine ⟨⟨_, rfl, ?_⟩, ⟨_, rfl, ?_⟩, ⟨_, rfl, ?_⟩, ⟨_, rfl, ?_⟩, forall_mem_nil _⟩ <;>
      funext role <;> cases role <;> rfl

end Theme

/-! ## Configurations -/

namespace Configuration

def fieldNames : List Text := ["colors".toList, "components".toList, "rules".toList, "darkMode".toList]

/-- One document in two ways. A theme is a member of the object under `colors`. -/
inductive Respelled : Value → Value → Prop where
  | order {value value' : Value} : value.IsDistinct → value.Reordered value' → Respelled value value'
  | document {members members' : List (Text × Value)} : Padded fieldNames members members' →
      Respelled (.object members) (.object members')
  | theme {before after themesBefore themesAfter members members' : List (Text × Value)} {name : Text} :
      Padded Theme.fieldNames members members' →
      Respelled
        (.object (before ++
          ("colors".toList, .object (themesBefore ++ (name, .object members) :: themesAfter)) :: after))
        (.object (before ++
          ("colors".toList, .object (themesBefore ++ (name, .object members') :: themesAfter)) :: after))

theorem isShownBy_appearance : Configuration.schema.IsShownBy Configuration.appearance where
  commutes := commutes
  congr := by
    simp only [schema, forall_mem_cons]
    refine ⟨?_, ?_, ?_, ?_, forall_mem_nil _⟩ <;> refine Schema.congr_of_map fun a config config' h => ?_ <;>
      obtain ⟨hcolors, hcomponents, hrules, hdarkMode⟩ := Appearance.mk.inj h <;>
      simp only [appearance, *]
  null := by
    simp only [schema, forall_mem_cons]
    refine ⟨⟨_, rfl, ?_⟩, ⟨_, rfl, ?_⟩, ⟨_, rfl, ?_⟩, ⟨_, rfl, ?_⟩, forall_mem_nil _⟩ <;> rfl

/-! ## Sections -/

section Sections

variable {α β : Type} {decode : Decoder α}

theorem map_insert (f : α → β) (m : NameMap α) (name : Text) (a : α) :
    (m.insert name a).map (fun _ => f) = (m.map fun _ => f).insert name (f a) := by
  apply Std.ExtTreeMap.ext_getElem?
  intro other
  simp only [Std.ExtTreeMap.getElem?_map, Std.ExtTreeMap.getElem?_insert]
  split <;> rfl

theorem map_ofList (f : α → β) (entries : List (Text × α)) :
    (Std.ExtTreeMap.ofList entries : NameMap α).map (fun _ => f) =
      Std.ExtTreeMap.ofList (entries.map fun entry => (entry.1, f entry.2)) := by
  have hfold (m : NameMap α) :
      (entries.foldl (fun m entry => m.insert entry.1 entry.2) m).map (fun _ => f) =
        (entries.map fun entry => (entry.1, f entry.2)).foldl (fun m entry => m.insert entry.1 entry.2)
          (m.map fun _ => f) := by
    induction entries generalizing m with
    | nil => rfl
    | cons entry entries ih => rw [foldl_cons, ih, map_insert, map_cons, foldl_cons]
  rw [Std.ExtTreeMap.ofList_eq_foldl, Std.ExtTreeMap.ofList_eq_foldl, hfold]
  rfl

/-- Mapping what a section is decoded to is decoding its entries for what they are mapped to. -/
theorem map_sectionDecoder (f : α → β) (value : Value) :
    (sectionDecoder decode value).map (fun entries => entries.map fun _ => f) =
      sectionDecoder (decode.map f) value := by
  cases value with
  | object members =>
      have hentries : members.map (decode.map f).entry =
          (members.map decode.entry).map (Option.map fun entry => (entry.1, f entry.2)) := by
        rw [map_map]
        exact map_congr_left fun member _ => by simp [Decoder.entry, Decoder.map, Function.comp_def]
      change ((collect _).map _).map _ = (collect _).map _
      rw [hentries, ← map_collect, Option.map_map, Option.map_map]
      congr 1
      funext entries
      exact map_ofList f entries
  | null => exact congrArg some (map_ofList f [])
  | boolean _ | number _ | text _ | list _ => rfl

theorem sectionDecoder_congr {before after : List (Text × Value)} {name : Text} {value value' : Value}
    (h : decode value' = decode value) :
    sectionDecoder decode (.object (before ++ (name, value') :: after)) =
      sectionDecoder decode (.object (before ++ (name, value) :: after)) := by
  change (collect _).map _ = (collect _).map _
  simp only [map_append, map_cons, Decoder.entry, h]

end Sections

/-! ## Documents -/

/-- Sections in which every theme has the same colors give configurations that look alike. -/
theorem map_decode_themes {before after : List (Text × Value)} {value value' : Value}
    (h : sectionDecoder (Theme.schema.decode.map Theme.color) value' =
      sectionDecoder (Theme.schema.decode.map Theme.color) value) :
    (schema.decode (.object (before ++ ("colors".toList, value') :: after))).map appearance =
      (schema.decode (.object (before ++ ("colors".toList, value) :: after))).map appearance := by
  rw [← Schema.decode_perm commutes perm_middle, ← Schema.decode_perm commutes perm_middle]
  rw [← map_sectionDecoder, ← map_sectionDecoder] at h
  refine isShownBy_appearance.decode_cons_congr rfl (fun themes themes' hcolors config => ?_) h
  simp only [appearance, hcolors]

theorem map_decode_of_respelled {value value' : Value} (h : Respelled value value') :
    (schema.decode value').map appearance = (schema.decode value).map appearance := by
  cases h with
  | order hdistinct hvalue => rw [ignoresOrder hdistinct hvalue]
  | document hpadded => exact isShownBy_appearance.decode_padded hpadded
  | theme hpadded =>
      exact map_decode_themes (sectionDecoder_congr (Theme.isShownBy_color.decode_padded hpadded))

theorem map_decode_of_eqvGen {value value' : Value} (h : Relation.EqvGen Respelled value value') :
    (schema.decode value').map appearance = (schema.decode value).map appearance := by
  induction h with
  | rel _ _ hstep => exact map_decode_of_respelled hstep
  | refl _ => rfl
  | symm _ _ _ ih => exact ih.symm
  | trans _ _ _ _ _ ih ih' => exact ih'.trans ih

/-- The same themes of the same colors, and for every element the same tokens from the same sources,
whatever has been resolved before. -/
structure SameStyles (config other : Configuration) : Prop where
  color_eq : ∀ (name : Text) (role : Role),
    (other.themes[name]?).map (Theme.color · role) = (config.themes[name]?).map (Theme.color · role)
  resolutionAfter_eq : ∀ earlier before element,
    Cascade.resolutionAfter other earlier element = Cascade.resolutionAfter config before element
  resolveOnce_eq : ∀ element, Cascade.resolveOnce other element = Cascade.resolveOnce config element

theorem sameStyles_of_appearance {config other : Configuration} (h : other.appearance = config.appearance) :
    config.SameStyles other := by
  refine ⟨fun name role => ?_, Cascade.resolutionAfter_eq_of_appearance h,
    fun element => congrFun (Cascade.resolveOnce_eq_of_appearance h) element⟩
  have hcolor := congrArg (Option.map fun color => color role) (color_eq_of_appearance h name)
  simpa [Function.comp_def] using hcolor

/-- A document that is read is read in every other way that it may be written, with the same warnings. What is
written is a value whose texts are sequences of Unicode scalar values. A document with an unpaired surrogate in
an escape writes no such value, and nothing is said of it. -/
theorem ofDocument_respelled {value value' : Value} {t t' path path' : Text} {config : Configuration}
    {events : List Event} (hvalue : Relation.EqvGen Respelled value value') (ht : WritesDocument value t)
    (ht' : WritesDocument value' t') (hread : ofDocument t path = .ok (config, events)) :
    ∃ other, ofDocument t' path' = .ok (other, events) ∧ config.SameStyles other := by
  obtain ⟨hparse, rfl⟩ := ofDocument_eq_ok_iff.mp hread
  have hdecode : schema.decode value = some config := by
    rw [← toOption_parse ht, hparse, toOption_ok]
  have hshown := map_decode_of_eqvGen hvalue
  rw [hdecode, Option.map_some] at hshown
  obtain ⟨other, hother, happearance⟩ := Option.map_eq_some_iff.mp hshown
  have hparse' : parse t' = .ok other := by
    rw [← toOption_eq_some_iff, toOption_parse ht', hother]
  exact ⟨other, ofDocument_eq_ok_iff.mpr ⟨hparse', warnings_eq_of_appearance happearance⟩,
    sameStyles_of_appearance happearance⟩

/-- A text color that was `null` is left out, and a number that is too great to be read is passed over. -/
theorem ofDocument_respelled_unknown :
    let config : Configuration := { themes := Std.ExtTreeMap.ofList [(['a'], ({ text := [] } : Theme))] }
    ofDocument "\x7b\"colors\":\x7b\"a\":\x7b\"text\":null\x7d\x7d\x7d".toList [] =
        .ok (config, config.warnings) ∧
      ∃ other,
        ofDocument "\x7b\"x\":1e999,\"colors\":\x7b\"a\":\x7b\x7d\x7d\x7d".toList [] =
            .ok (other, config.warnings) ∧
          config.SameStyles other := by
  intro config
  have htheme : Respelled (.object [("colors".toList, .object [(['a'], .object [])])])
      (.object [("colors".toList, .object [(['a'], .object [("text".toList, .null)])])]) :=
    @Respelled.theme [] [] [] [] _ _ _ (@Padded.null _ [] [] _ (by decide) (by decide))
  have hdocument : Respelled (.object [("colors".toList, .object [(['a'], .object [])])])
      (.object
        [ (['x'], .number ⟨false, ['1'], none, some (false, "999".toList)⟩),
          ("colors".toList, .object [(['a'], .object [])]) ]) :=
    .document (@Padded.unknown _ [] _ _ _ (by decide))
  have hvalue := ((Relation.EqvGen.rel _ _ htheme).symm).trans _ _ _ (.rel _ _ hdocument)
  have hnumber : WritesNumber ⟨false, ['1'], none, some (false, "999".toList)⟩ "1e999".toList :=
    .intro ⟨by decide, by simp⟩ (by decide) .none (.some (.inl rfl) .none ⟨by decide, by simp⟩)
  have ht : Writes (.object [("colors".toList, .object [(['a'], .object [("text".toList, .null)])])]) _ :=
    writes_compactObject (.cons (.intro (writes_compactObject (.cons (.intro
      (writes_compactObject (.cons (.intro .null) .nil))) .nil))) .nil)
  have ht' : Writes
      (.object
        [ (['x'], .number ⟨false, ['1'], none, some (false, "999".toList)⟩),
          ("colors".toList, .object [(['a'], .object [])]) ]) _ :=
    writes_compactObject (.cons (.intro (.number hnumber)) (.cons (.intro (writes_compactObject
      (.cons (.intro (writes_compactObject .nil)) .nil))) .nil))
  have hparse : parse _ = .ok config := toOption_eq_some_iff.mp (toOption_parse ht.document)
  have hread : ofDocument _ [] = .ok (config, config.warnings) := ofDocument_eq_ok_iff.mpr ⟨hparse, rfl⟩
  exact ⟨hread, ofDocument_respelled hvalue ht.document ht'.document hread⟩

end Configuration

end ThemeCascade
