import ThemeCascade.Path

/-! Which component the elements of a document belong to. The file names it first; every named function,
and every variable bound to a function, names it anew. -/

namespace ThemeCascade

/-- What a traversal meets that may name a component. -/
inductive Declaration where
  | file (path : Text)
  | function (name : Text)
  | binding (name : Text) (isFunction : Bool)
deriving DecidableEq

structure Scope where
  component : Option Text := none
deriving DecidableEq

namespace Scope

def empty : Scope := {}

def ofFile (path : Text) : Scope := ⟨Path.componentName? path⟩

/-- A function without a name, and a variable bound to anything else, change nothing. -/
def enter (scope : Scope) : Declaration → Scope
  | .file path => ofFile path
  | .function name => if name = [] then scope else ⟨some name⟩
  | .binding name isFunction => if isFunction && name ≠ [] then ⟨some name⟩ else scope

end Scope

end ThemeCascade
