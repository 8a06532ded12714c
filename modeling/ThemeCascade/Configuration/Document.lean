import ThemeCascade.Configuration.Basic
import ThemeCascade.Json.Fields

/-! Configurations as JSON documents. Every section and every color may be missing or `null`; of two
entries of one name in a section the later one holds. -/

namespace ThemeCascade

open Json

namespace Theme

/-- A missing text color is white, but `null` is the empty literal for every role. -/
def fields : Fields Theme where
  title := "struct ColorTheme"
  blank := {}
  fields :=
    [ ⟨"main".toList, (Reader.text.orNull []).map fun literal theme => { theme with main := literal }⟩,
      ⟨"light".toList, (Reader.text.orNull []).map fun literal theme => { theme with light := literal }⟩,
      ⟨"dark".toList, (Reader.text.orNull []).map fun literal theme => { theme with dark := literal }⟩,
      ⟨"text".toList, (Reader.text.orNull []).map fun literal theme => { theme with text := literal }⟩ ]

end Theme

namespace Configuration

/-- A section with an entry for each name, the last one given. -/
def sectionReader {α : Type} (reader : Reader α) : Reader (NameMap α) :=
  (reader.object.orNull []).map fun members => Std.ExtTreeMap.ofList members

def fields : Fields Configuration where
  title := "struct ThemeConfiguration"
  blank := {}
  fields :=
    [ ⟨"colors".toList,
        (sectionReader Theme.fields.reader).map fun themes config => { config with themes }⟩,
      ⟨"components".toList,
        (sectionReader Reader.text).map fun components config => { config with components }⟩,
      ⟨"rules".toList,
        (Reader.text.list.orNull []).map fun rules config => { config with rules }⟩,
      ⟨"darkMode".toList,
        (sectionReader Reader.text).map fun darkMode config => { config with darkMode }⟩ ]

/-- The configuration that a document describes. -/
def parse (source : Text) : Except Fault Configuration := fields.reader.document source

end Configuration

end ThemeCascade
