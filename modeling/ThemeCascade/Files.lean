import ThemeCascade.Path

/-! Files in and around a working directory, and reading one of them as text by a path. The root and the
directories above the working directory are always there. -/

namespace ThemeCascade

inductive Entry where
  | file (bytes : ByteArray)
  | directory

/-- Where names lead down from: the root, or the directory so many levels above the working one. -/
inductive Location.Base where
  | root
  | above (levels : Nat)
deriving DecidableEq

structure Location where
  base : Location.Base := .above 0
  names : List Text := []
deriving DecidableEq

namespace Location

def child (location : Location) (name : Text) : Location :=
  ⟨location.base, location.names ++ [name]⟩

/-- The directory of a location; that of the root is the root. -/
def parent : Location → Location
  | ⟨.root, []⟩ => ⟨.root, []⟩
  | ⟨.above levels, []⟩ => ⟨.above (levels + 1), []⟩
  | ⟨base, name :: names⟩ => ⟨base, (name :: names).dropLast⟩

def follow (location : Location) : Path.Piece → Location
  | .root => ⟨.root, []⟩
  | .here => location
  | .up => location.parent
  | .name text => location.child text

/-- Where following a path begins. -/
def start (path : Text) : Location := if Path.isAbsolute path then ⟨.root, []⟩ else {}

end Location

/-- What has been put where, the latest first. -/
structure Files where
  entries : List (Location × Entry) := []

namespace Files

/-- Why a file was not read. -/
inductive Failure where
  | notFound | nulInPath | nameTooLong | notDirectory | isDirectory | notUnicode
deriving DecidableEq

def Failure.message : Failure → String
  | notFound => "No such file or directory (os error 2)"
  | nulInPath => "file name contained an unexpected NUL byte"
  | nameTooLong => "File name too long (os error 36)"
  | notDirectory => "Not a directory (os error 20)"
  | isDirectory => "Is a directory (os error 21)"
  | notUnicode => "stream did not contain valid UTF-8"

/-- The bytes of a path, and of a name in it, that are allowed. -/
def pathLimit : Nat := 4095

def nameLimit : Nat := 255

/-- The pieces to follow; a slash at the end asks for a directory. -/
def steps (path : Text) : List Path.Piece :=
  (path.splitOnP (· = '/')).filterMap Path.Piece.ofFirst? ++
    if path.getLast? = some '/' then [.here] else []

def put (files : Files) (location : Location) (entry : Entry) : Files :=
  ⟨(location, entry) :: files.entries⟩

def find? (files : Files) (location : Location) : Option Entry :=
  match files.entries.lookup location with
  | some entry => some entry
  | none => if location.names = [] then some .directory else none

/-- Puts an entry at the end of a path and directories on the way to it. -/
def placeFrom (files : Files) (location : Location) (entry : Entry) : List Path.Piece → Files
  | [] => files.put location entry
  | piece :: rest => (files.put location .directory).placeFrom (location.follow piece) entry rest

def place (files : Files) (path : Text) (entry : Entry) : Files :=
  files.placeFrom (.start path) entry (steps path)

/-- Places entries one after another. -/
def ofList (l : List (Text × Entry)) : Files :=
  l.foldl (fun files (path, entry) => files.place path entry) {}

/-- Follows the pieces of a path from a directory. -/
def walk (files : Files) (location : Location) : List Path.Piece → Except Failure Entry
  | [] => .ok .directory
  | .name name :: rest =>
    if nameLimit < Text.byteLength name then .error .nameTooLong
    else
      match files.find? (location.child name) with
      | none => .error .notFound
      | some .directory => files.walk (location.child name) rest
      | some (.file bytes) => if rest = [] then .ok (.file bytes) else .error .notDirectory
  | piece :: rest => files.walk (location.follow piece) rest

/-- The text of a file. -/
def read (files : Files) (path : Text) : Except Failure Text :=
  if path.contains '\x00' then .error .nulInPath
  else if path = [] then .error .notFound
  else if pathLimit < path.byteLength then .error .nameTooLong
  else
    match files.walk (.start path) (steps path) with
    | .error failure => .error failure
    | .ok .directory => .error .isDirectory
    | .ok (.file bytes) =>
      match String.fromUTF8? bytes with
      | some s => .ok s.toList
      | none => .error .notUnicode

end Files

end ThemeCascade
