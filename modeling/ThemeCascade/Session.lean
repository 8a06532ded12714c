import ThemeCascade.Cascade
import ThemeCascade.Scope

/-! Sessions follow the traversal of documents and style their elements. Any number of sessions share
one cascade and one table; each has a scope of its own. -/

namespace ThemeCascade

/-- An element as it stands in a document. -/
structure Markup where
  tag : Text
  classValue : ClassList.Attribute := .absent
  id : Option Text := none
deriving DecidableEq

inductive Step where
  | declare (declaration : Declaration)
  | resolve (markup : Markup)
  | style (markup : Markup)
deriving DecidableEq

inductive Answer where
  | none
  | resolution (resolution : Resolution)
  | edit (edit : Option ClassList.Edit)
deriving DecidableEq

/-- The answer to a step, and the session's component after it. -/
structure Reply where
  component : Option Text
  answer : Answer
deriving DecidableEq

namespace Scope

/-- The element as the cascade sees it. Classes are looked for in literal values only. -/
def element? (scope : Scope) (markup : Markup) : Option Element :=
  if markup.tag = [] then none
  else scope.component.map fun component =>
    { component, tag := markup.tag, classes := markup.classValue.literal?, id := markup.id }

end Scope

namespace Session

variable (cascade : Cascade) (scope : Scope)

/-- Without a component or a tag there is nothing to style. -/
def resolve (markup : Markup) : Traced TokenTable Resolution :=
  match scope.element? markup with
  | none => pure {}
  | some element => cascade.resolve element

def style (markup : Markup) : Traced TokenTable (Option ClassList.Edit) := do
  let resolution ← resolve cascade scope markup
  match ClassList.Edit.plan markup.classValue resolution.tokens with
  | none => return none
  | some edit =>
    Traced.note (.elementEdited markup.tag scope.component edit resolution.sources)
    return some edit

/-- Only the beginning of a file is worth an event. -/
def declared (scope : Scope) : Declaration → List Event
  | .file path => [.fileEntered path scope.component]
  | .function _ | .binding _ _ => []

def step : Step → Traced TokenTable (Scope × Answer)
  | .declare declaration => fun table =>
    let next := scope.enter declaration
    ⟨(next, .none), declared next declaration, table⟩
  | .resolve markup => do return (scope, .resolution (← resolve cascade scope markup))
  | .style markup => do return (scope, .edit (← style cascade scope markup))

end Session

/-- The table and the scopes of the sessions that have begun, by number. -/
structure Workshop where
  table : TokenTable := .empty
  scopes : Std.ExtTreeMap Nat Scope := ∅

namespace Workshop

def empty : Workshop := {}

/-- The scope of a session, empty as long as it has not begun. -/
def scope (workshop : Workshop) (session : Nat) : Scope := workshop.scopes.getD session .empty

def step (cascade : Cascade) (session : Nat) (step : Step) : Traced Workshop Reply :=
  fun workshop =>
    let outcome := (Session.step cascade (workshop.scope session) step).run workshop.table
    let (scope, answer) := outcome.answer
    ⟨⟨scope.component, answer⟩, outcome.events,
      { table := outcome.memory, scopes := workshop.scopes.insert session scope }⟩

/-- The steps of all sessions in the order in which they are taken. -/
def run (cascade : Cascade) (steps : List (Nat × Step)) : Traced Workshop (List Reply) :=
  steps.mapM fun (session, step) => Workshop.step cascade session step

end Workshop

end ThemeCascade
