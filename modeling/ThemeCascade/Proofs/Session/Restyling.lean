import ThemeCascade.Proofs.Cascade.Splitting
import ThemeCascade.Proofs.Session.Refinement

/-! # Styling an element again

An element that bears the class list it was given asks for no further edit, provided that no custom value
has a blank and no rule looks for a class that the edit itself has added. -/

namespace ThemeCascade

open Text ClassList

/-! ## The same element with another class list -/

theorem Element.hasClass_iff {element : Element} {name : Text} :
    element.hasClass name = true ↔ name ∈ existingWords element.classes := by
  cases hclasses : element.classes with
  | none => simp [hasClass, existingWords, hclasses]
  | some value => simp [hasClass, existingWords, hclasses]

namespace Configuration

/-- No custom value in use has a blank. -/
def UsesUnbroken (config : Configuration) : Prop :=
  ∀ paintText custom, config.Uses paintText → Paint.ofText paintText = .custom custom → IsUnbroken custom

/-- Some rule is for the elements of this class. -/
def LooksFor (config : Configuration) (name : Text) : Prop :=
  ∃ rule, config.HasRule rule ∧ rule.target = some (.cls name)

theorem UsesUnbroken.hasUnbrokenValues {config : Configuration} (h : config.UsesUnbroken)
    (element : Element) : config.HasUnbrokenValues element :=
  fun paintText _ custom hreaches => h paintText custom hreaches.uses

end Configuration

namespace Markup

def withClasses (markup : Markup) (value : Text) : Markup := { markup with classValue := .literal value }

theorem element_classes (markup : Markup) (component : Text) :
    (markup.element component).classes = markup.classValue.literal? := by
  cases h : markup.classValue <;> simp [element, Attribute.literal?, h]

/-- The new classes make no difference to the rules if every class that a rule looks for is among the old
ones, or not among the new ones. -/
theorem isLike_withClasses {config : Configuration} {markup : Markup} {value : Text}
    (hkept : ∀ name ∈ existingWords markup.classValue.literal?, name ∈ value.words)
    (hrules : ∀ name ∈ value.words, config.LooksFor name →
      name ∈ existingWords markup.classValue.literal?) (component : Text) :
    config.IsLike (markup.element component) ((markup.withClasses value).element component) := by
  refine ⟨rfl, rfl, ?_⟩
  intro rule hrule
  have htarget : rule.target.all ((markup.withClasses value).element component).hasTarget =
      rule.target.all (markup.element component).hasTarget := by
    rcases htarget : rule.target with _ | (name | name | name)
    · rfl
    · rfl
    · have hsame : name ∈ value.words ↔ name ∈ existingWords markup.classValue.literal? :=
        ⟨fun hnew => hrules name hnew ⟨rule, hrule, htarget⟩, hkept name⟩
      rw [Option.all_some, Option.all_some, Bool.eq_iff_iff]
      simp only [Element.hasTarget, Element.hasClass_iff, element_classes]
      exact hsame
    · rfl
  rw [Element.meets, Element.meets, htarget]
  rfl

end Markup

/-! ## One session -/

namespace Session

variable {config : Configuration} {markup : Markup} {value : Text}

theorem isWord_of_mem_declaredResolution (component : Option Text) (hcustom : config.UsesUnbroken) :
    ∀ token ∈ (declaredResolution config component markup).tokens, IsWord token := by
  intro token htoken
  unfold declaredResolution at htoken
  split at htoken
  · simp at htoken
  · next component =>
    split at htoken
    · simp at htoken
    · exact (hcustom.hasUnbrokenValues _).isWord_of_mem htoken

theorem declaredResolution_withClasses
    (hlike : ∀ component,
      config.IsLike (markup.element component) ((markup.withClasses value).element component))
    (component : Option Text) :
    declaredResolution config component (markup.withClasses value) =
      declaredResolution config component markup := by
  cases component with
  | none => rfl
  | some component =>
      simp only [declaredResolution, (hlike component).cascaded_eq]
      rfl

/-- Planned by itself, the second edit is none: the rules are the same, so the tokens are, and each of them
finds its property set. -/
theorem declaredEdit_withClasses {component : Option Text}
    (hwritten : declaredEdit config component markup = some (.insert value) ∨
      declaredEdit config component markup = some (.replace value))
    (hcustom : config.UsesUnbroken)
    (hrules : ∀ name ∈ value.words, config.LooksFor name →
      name ∈ existingWords markup.classValue.literal?) :
    declaredEdit config component (markup.withClasses value) = none := by
  have hwords : ∀ token ∈ (declaredResolution config component markup).tokens, IsWord token :=
    isWord_of_mem_declaredResolution component hcustom
  rw [declaredEdit_eq_plan] at hwritten
  have hkept : ∀ name ∈ existingWords markup.classValue.literal?, name ∈ value.words := by
    intro name hname
    rw [Edit.eq_merge_of_plan hwritten, words_merge]
    exact List.mem_append_left _ hname
  rw [declaredEdit_eq_plan,
    declaredResolution_withClasses (Markup.isLike_withClasses hkept hrules) component]
  exact Edit.plan_literal_of_plan hwords hwritten

end Session

/-! ## Sessions that share a table -/

namespace Workshop

open Session

variable {config : Configuration} {past : List (Nat × Step)} {workshop : Workshop}

theorem Represents.run_memory (h : Represents config past workshop) (steps : List (Nat × Step)) :
    Represents config (past ++ steps) ((Workshop.run (.ofConfiguration config) steps).run workshop).memory := by
  induction steps generalizing past workshop with
  | nil =>
      rw [List.append_nil]
      exact h
  | cons entry steps ih =>
      obtain ⟨owner, step⟩ := entry
      have hrest := ih (h.step owner step).2
      rw [List.append_assoc, List.singleton_append] at hrest
      rw [Workshop.run, List.mapM_cons]
      exact hrest

/-- The workshop after these steps of all sessions. -/
def after (config : Configuration) (steps : List (Nat × Step)) : Workshop :=
  ((Workshop.run (.ofConfiguration config) steps).run empty).memory

/-- The edit that a session plans for the element after these steps. -/
def editAfter (config : Configuration) (steps : List (Nat × Step)) (session : Nat) (markup : Markup) :
    Option Edit :=
  ((Session.style (.ofConfiguration config) ((after config steps).scope session) markup).run
    (after config steps).table).answer

theorem represents_after (config : Configuration) (steps : List (Nat × Step)) :
    Represents config steps (after config steps) :=
  (represents_empty config).run_memory steps

theorem editAfter_eq (config : Configuration) (steps : List (Nat × Step)) (session : Nat)
    (markup : Markup) :
    editAfter config steps session markup =
      declaredEdit config (Declaration.component? (declarations session steps)) markup := by
  have hafter := represents_after config steps
  rw [← hafter.component_eq session]
  exact (yields_style _ markup _ hafter.faithful).1

/-- An element is styled once. As long as its session declares nothing new, whatever the sessions do in
between, the list that was written is left as it is. -/
theorem editAfter_withClasses {config : Configuration} {past later : List (Nat × Step)} {session : Nat}
    {markup : Markup} {value : Text}
    (hwritten : editAfter config past session markup = some (.insert value) ∨
      editAfter config past session markup = some (.replace value))
    (hcustom : config.UsesUnbroken)
    (hrules : ∀ name ∈ value.words, config.LooksFor name →
      name ∈ existingWords markup.classValue.literal?)
    (hlater : declarations session later = []) :
    editAfter config (past ++ later) session (markup.withClasses value) = none := by
  have hdeclared : declarations session (past ++ later) = declarations session past := by
    rw [declarations_append, hlater, List.append_nil]
  rw [editAfter_eq, hdeclared]
  rw [editAfter_eq] at hwritten
  exact declaredEdit_withClasses hwritten hcustom hrules

theorem editAfter_withClasses_custom :
    let config : Configuration := { rules := [".tick:[#f00]".toList, ".big:primary".toList] }
    let past : List (Nat × Step) :=
      [(0, .declare (.function "Clock".toList)), (1, .declare (.file "src/Card.tsx".toList)),
        (1, .style { tag := "a".toList })]
    let later : List (Nat × Step) := [(1, .declare (.function "Dial".toList))]
    let markup : Markup := { tag := "a".toList, classValue := .literal " tick  mb-2 ".toList }
    let value := "tick mb-2 [color:#f00] hover:underline transition-colors".toList
    editAfter config past 0 markup = some (.replace value) ∧ config.UsesUnbroken ∧
      (∀ name ∈ words value, config.LooksFor name → name ∈ existingWords markup.classValue.literal?) ∧
      declarations 0 later = [] ∧ editAfter config (past ++ later) 0 (markup.withClasses value) = none := by
  intro config past later markup value
  have hwritten : editAfter config past 0 markup = some (.replace value) := by decide +kernel
  have htick : Rule.parse ".tick:[#f00]".toList =
      .ok { target := some (.cls "tick".toList), paintText := "[#f00]".toList } := by decide +kernel
  have hbig : Rule.parse ".big:primary".toList =
      .ok { target := some (.cls "big".toList), paintText := "primary".toList } := by decide +kernel
  have hconfigured : ∀ {rule}, config.HasRule rule →
      rule = { target := some (.cls "tick".toList), paintText := "[#f00]".toList } ∨
        rule = { target := some (.cls "big".toList), paintText := "primary".toList } := by
    rintro rule ⟨text, htext, hparse⟩
    obtain rfl | rfl : text = ".tick:[#f00]".toList ∨ text = ".big:primary".toList := by
      simpa [config] using htext
    · exact .inl (Except.ok.inj (hparse.symm.trans htick))
    · exact .inr (Except.ok.inj (hparse.symm.trans hbig))
  have hcustom : config.UsesUnbroken := by
    intro paintText custom huses hpaint
    cases huses with
    | rule hrule =>
        obtain rfl | rfl := hconfigured hrule
        · obtain rfl : "#f00".toList = custom := by
            have : Paint.ofText "[#f00]".toList = .custom "#f00".toList := by decide +kernel
            exact Paint.custom.inj (this.symm.trans hpaint)
          decide +kernel
        · have : Paint.ofText "primary".toList = .theme "primary".toList := by decide +kernel
          cases this.symm.trans hpaint
    | component hentry => simp [config] at hentry
    | darkMode hentry => simp [config] at hentry
  have hrules : ∀ name ∈ words value, config.LooksFor name →
      name ∈ existingWords markup.classValue.literal? := by
    rintro name hname ⟨rule, hrule, htarget⟩
    obtain rfl | rfl := hconfigured hrule
    · obtain rfl : "tick".toList = name := by simpa using htarget
      decide +kernel
    · obtain rfl : "big".toList = name := by simpa using htarget
      exact absurd hname (by decide +kernel)
  have hlater : declarations 0 later = [] := by decide +kernel
  exact ⟨hwritten, hcustom, hrules, hlater,
    editAfter_withClasses (.inr hwritten) hcustom hrules hlater⟩

end Workshop

end ThemeCascade
