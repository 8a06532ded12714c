import ThemeCascade.Proofs.Cascade.Semantics
import ThemeCascade.Proofs.Path.Names
import ThemeCascade.Session

/-! # What a session is to answer

A session is judged by its own declarations alone: the last of them that has an effect names the
component, and the answer to a step is computed from that component and the configuration. -/

namespace ThemeCascade

namespace Declaration

/-- The component that the declaration sets, if it sets one. A file may set it to none. -/
def effect? : Declaration → Option (Option Text)
  | .file path => some (Path.componentName? path)
  | .function name => if name = [] then none else some (some name)
  | .binding name isFunction => if isFunction = true ∧ name ≠ [] then some (some name) else none

/-- The component after these declarations: what the last effective one set. -/
def component? (declarations : List Declaration) : Option Text :=
  (declarations.filterMap effect?).getLast?.join

@[simp] theorem component?_nil : component? [] = none := rfl

theorem component?_append_singleton (declarations : List Declaration) (declaration : Declaration) :
    component? (declarations ++ [declaration]) =
      declaration.effect?.getD (component? declarations) := by
  rw [component?, List.filterMap_append]
  cases h : declaration.effect? with
  | none => simp [component?, h]
  | some component => simp [h]

example : component? [.file "src/Clock.tsx".toList, .binding "size".toList false, .function []] =
    some "Clock".toList := by decide

theorem effect?_ne_nil (declaration : Declaration) : declaration.effect? ≠ some (some []) := by
  cases declaration with
  | file path => simpa [effect?] using Path.componentName?_ne_nil path
  | function name => simp [effect?]
  | binding name isFunction =>
      by_cases hnamed : isFunction = true ∧ name ≠ []
      · simp [effect?, hnamed]
      · simp [effect?, hnamed]

/-- The component is never the empty name, since no declaration sets it to that. -/
theorem component?_ne_nil (declarations : List Declaration) : component? declarations ≠ some [] := by
  intro h
  rw [component?, Option.join_eq_some_iff] at h
  obtain ⟨declaration, -, heffect⟩ := List.mem_filterMap.mp (List.mem_of_getLast? h)
  exact declaration.effect?_ne_nil heffect

end Declaration

theorem Scope.enter_component (scope : Scope) (declaration : Declaration) :
    (scope.enter declaration).component = declaration.effect?.getD scope.component := by
  cases declaration with
  | file path => rfl
  | function name =>
      by_cases h : name = []
      · simp [enter, Declaration.effect?, h]
      · simp [enter, Declaration.effect?, h]
  | binding name isFunction =>
      by_cases h : isFunction = true ∧ name ≠ []
      · simp [enter, Declaration.effect?, h]
      · simp [enter, Declaration.effect?, h]

namespace Markup

/-- The element that stands in the component. Its classes are known only if they are a literal. -/
def element (markup : Markup) (component : Text) : Element where
  component
  tag := markup.tag
  classes := match markup.classValue with
    | .literal value => some value
    | .absent | .computed => none
  id := markup.id

end Markup

namespace Session

variable (config : Configuration)

/-- The resolution of an element by itself. There is none without a component or without a tag. -/
def declaredResolution (component : Option Text) (markup : Markup) : Resolution :=
  match component with
  | none => {}
  | some component =>
    if markup.tag = [] then {} else config.cascaded (markup.element component)

/-- The edit that the tokens of an element by itself ask for. -/
def declaredEdit (component : Option Text) (markup : Markup) : Option ClassList.Edit :=
  match component with
  | none => none
  | some component =>
    if markup.tag = [] then none
    else
      let tokens := (Cascade.resolveOnce config (markup.element component)).answer
      ClassList.Edit.plan markup.classValue tokens

def declaredAnswer (component : Option Text) : Step → Answer
  | .declare _ => .none
  | .resolve markup => .resolution (declaredResolution config component markup)
  | .style markup => .edit (declaredEdit config component markup)

/-- The declarations that this session has made among the steps of all sessions, in order. -/
def declarations (session : Nat) (steps : List (Nat × Step)) : List Declaration :=
  steps.filterMap fun
    | (owner, .declare declaration) => if owner = session then some declaration else none
    | (_, .resolve _) | (_, .style _) => none

theorem declarations_append (session : Nat) (past later : List (Nat × Step)) :
    declarations session (past ++ later) = declarations session past ++ declarations session later :=
  List.filterMap_append

theorem declarations_of_ne {session owner : Nat} (h : owner ≠ session) (step : Step) :
    declarations session [(owner, step)] = [] := by
  cases step <;> simp [declarations, h]

/-- The reply to the last step of a session, given what it has declared until then. -/
def declaredReply (declarations : List Declaration) (step : Step) : Reply :=
  let component := Declaration.component? declarations
  ⟨component, declaredAnswer config component step⟩

end Session

end ThemeCascade
