import ThemeCascade.Double.Notation
import ThemeCascade.Text.Quoted

/-! What can be wrong with a JSON text, and where. Reading stops at the first fault. -/

namespace ThemeCascade.Json

/-- A value of another type than the one wanted. -/
inductive Found where
  | null
  | boolean (value : Bool)
  | integer (value : Int)
  | decimal (isNegative : Bool) (value : Double)
  | text (value : Text)
  | list
  | object
deriving DecidableEq

namespace Found

def label : Found → String
  | null => "null"
  | boolean value => "boolean `" ++ toString value ++ "`"
  | integer value => "integer `" ++ toString value ++ "`"
  | decimal isNegative value =>
    "floating point `" ++ (if isNegative then "-" else "") ++ value.text.shown ++ "`"
  | text value => "string " ++ value.quoted
  | list => "sequence"
  | object => "map"

end Found

inductive Cause where
  | endInValue | endInList | endInObject | endInString
  | noValue | noWord | noColon | noListEnd | noObjectEnd | noKey
  | trailingComma | trailingCharacters
  | badNumber | numberOutOfRange
  | badEscape | brokenPair | loneSurrogate | controlCharacter
  | wrongType (found : Found) (wanted : String)
  | repeatedField (name : Text)
deriving DecidableEq

namespace Cause

def message : Cause → String
  | endInValue => "EOF while parsing a value"
  | endInList => "EOF while parsing a list"
  | endInObject => "EOF while parsing an object"
  | endInString => "EOF while parsing a string"
  | noValue => "expected value"
  | noWord => "expected ident"
  | noColon => "expected `:`"
  | noListEnd => "expected `,` or `]`"
  | noObjectEnd => "expected `,` or `\x7d`"
  | noKey => "key must be a string"
  | trailingComma => "trailing comma"
  | trailingCharacters => "trailing characters"
  | badNumber => "invalid number"
  | numberOutOfRange => "number out of range"
  | badEscape => "invalid escape"
  | brokenPair => "unexpected end of hex escape"
  | loneSurrogate => "lone leading surrogate in hex escape"
  | controlCharacter => "control character (\\u0000-\\u001F) found while parsing a string"
  | wrongType found wanted => "invalid type: " ++ found.label ++ ", expected " ++ wanted
  | repeatedField name => "duplicate field `" ++ name.shown ++ "`"

end Cause

/-- A line, counted from one, and the bytes before a place in it. -/
structure Place where
  line : Nat := 1
  column : Nat := 0
deriving DecidableEq

namespace Place

def past (place : Place) (c : Char) : Place :=
  if c = '\n' then ⟨place.line + 1, 0⟩ else ⟨place.line, place.column + c.utf8Size⟩

/-- The place some bytes further on in a text, which may lie within a character. -/
def pastBytes (place : Place) (count : Nat) : Text → Place
  | [] => place
  | c :: rest =>
    if count < c.utf8Size then ⟨place.line, place.column + count⟩
    else (place.past c).pastBytes (count - c.utf8Size) rest

end Place

/-- A cause, the text that was unread when it was found, and how many bytes of that text its place
lies ahead. -/
structure Fault where
  cause : Cause
  rest : Text
  ahead : Nat := 0
deriving DecidableEq

namespace Fault

/-- A fault that counts the next byte as read. -/
def atNext (cause : Cause) (rest : Text) : Fault := ⟨cause, rest, 1⟩

/-- The place of a fault in the text that was read. -/
def place (fault : Fault) (source : Text) : Place :=
  ((source.take (source.length - fault.rest.length)).foldl Place.past {}).pastBytes
    fault.ahead fault.rest

def message (fault : Fault) (source : Text) : String :=
  let place := fault.place source
  fault.cause.message ++ s!" at line {place.line} column {place.column}"

end Fault

end ThemeCascade.Json
