import ThemeCascade.Text.Basic

/-! Paths as texts whose pieces are separated by slashes. Empty pieces and `.` count for nothing, except
that a path may begin with one `.` or be absolute. -/

namespace ThemeCascade.Path

inductive Piece where
  | root | here | up
  | name (text : Text)
deriving DecidableEq

namespace Piece

/-- A piece between slashes that is not the first. -/
def ofText? (t : Text) : Option Piece :=
  if t = [] ∨ t = ['.'] then none else if t = ['.', '.'] then some up else some (name t)

/-- The first piece: nothing before a slash makes the path absolute. -/
def ofFirst? (t : Text) : Option Piece := if t = ['.'] then some here else ofText? t

end Piece

def isAbsolute (path : Text) : Bool := path.head? = some '/'

def pieces (path : Text) : List Piece :=
  match path.splitOnP (· = '/') with
  | [] => []
  | first :: rest =>
    (if isAbsolute path then some .root else Piece.ofFirst? first).toList ++
      rest.filterMap Piece.ofText?

/-- The name that a path ends in. -/
def endName? (l : List Piece) : Option Text :=
  match l.getLast? with
  | some (.name text) => some text
  | _ => none

/-- A file name without its last extension. A name that only begins with a dot has no extension. -/
def stem (name : Text) : Text :=
  match (name.reverse.dropWhile (· ≠ '.')).tail.reverse with
  | [] => name
  | stem => stem

/-- The component that a file defines: its stem, or the name of its directory if the stem is
`index`. -/
def componentName? (path : Text) : Option Text :=
  let pieces := pieces path
  match endName? pieces with
  | none => none
  | some name => if stem name = "index".toList then endName? pieces.dropLast else some (stem name)

/-- The second path as seen from the first. -/
def join (root path : Text) : Text :=
  if isAbsolute path then path
  else if root = [] ∨ root.getLast? = some '/' then root ++ path
  else root ++ '/' :: path

end ThemeCascade.Path
