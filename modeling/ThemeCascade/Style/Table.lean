import ThemeCascade.Traced

/-! The table of token lists that were rendered before. It has a row for each tag and variant, and in a
row the tokens of each paint. An unrecognised tag is never entered; a theme that is not configured is,
with no tokens. -/

namespace ThemeCascade

namespace TokenTable

structure Place where
  tag : Tag
  variant : Variant
deriving DecidableEq

/-- Tokens by the texts of paints. -/
abbrev Row := NameMap (List Text)

structure Key where
  tag : Tag
  variant : Variant
  paintText : Text
deriving DecidableEq

/-- Where the row of the key is. -/
def Key.place (key : Key) : Place := ⟨key.tag, key.variant⟩

end TokenTable

/-- The rows in the order in which they were begun. -/
structure TokenTable where
  rows : List (TokenTable.Place × TokenTable.Row) := []
deriving DecidableEq

namespace TokenTable

def empty : TokenTable := {}

/-- A row that was not begun is empty. -/
def row (table : TokenTable) (place : Place) : Row := (table.rows.lookup place).getD ∅

/-- The rows with another one at a place, where there may have been none. -/
def replaceRow (place : Place) (row : Row) : List (Place × Row) → List (Place × Row)
  | [] => [(place, row)]
  | (other, old) :: rows =>
    if place = other then (place, row) :: rows else (other, old) :: replaceRow place row rows

def find? (table : TokenTable) (key : Key) : Option (List Text) :=
  (table.row key.place)[key.paintText]?

def insert (table : TokenTable) (key : Key) (tokens : List Text) : TokenTable where
  rows := replaceRow key.place ((table.row key.place).insert key.paintText tokens) table.rows

/-- How many entries the rows have together. -/
def size (table : TokenTable) : Nat := table.rows.foldr (fun (_, row) count => row.size + count) 0

def isEmpty (table : TokenTable) : Bool := table.size = 0

/-- The tokens from the table, or else rendered and entered. -/
def request (config : Configuration) (tagName paintText : Text) (variant : Variant) :
    Traced TokenTable (List Text) := fun table =>
  match Tag.ofName? tagName with
  | none => ⟨[], [], table⟩
  | some tag =>
    let key : Key := ⟨tag, variant, paintText⟩
    match table.find? key with
    | some tokens => ⟨tokens, [], table⟩
    | none =>
      let tokens := config.tagTokens tag paintText variant
      ⟨tokens, [.tokensStored tag paintText variant tokens.length], table.insert key tokens⟩

end TokenTable

end ThemeCascade
