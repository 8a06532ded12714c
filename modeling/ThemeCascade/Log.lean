import ThemeCascade.Event
import ThemeCascade.Text.Quoted

/-! A log is the events of at most a level, as lines of text. -/

namespace ThemeCascade

/-- Levels in the order of their weight. -/
inductive Level where
  | error | warn | info | debug | trace
deriving DecidableEq

namespace Level

def rank : Level → Nat
  | error => 1
  | warn => 2
  | info => 3
  | debug => 4
  | trace => 5

def label : Level → String
  | error => "ERROR"
  | warn => "WARN"
  | info => "INFO"
  | debug => "DEBUG"
  | trace => "TRACE"

end Level

namespace Source

def label : Source → String
  | rule index => "Rule \x7b index: " ++ toString index ++ " \x7d"
  | component => "Component"
  | darkMode => "DarkMode"

end Source

namespace Variant

def label : Variant → String
  | base => "Base"
  | dark => "Dark"

end Variant

namespace ClassList.Edit

def label : Edit → String
  | insert value => "Insert(" ++ value.quoted ++ ")"
  | replace value => "Replace(" ++ value.quoted ++ ")"
  | prepend value => "Prepend \x7b prefix: " ++ value.quoted ++ " \x7d"

end ClassList.Edit

namespace Section

def label : Section → String
  | components => "components"
  | darkMode => "darkMode"

end Section

namespace Event

def level : Event → Level
  | ruleSkipped _ | documentMissing _ | unknownTheme _ _ _ => .warn
  | cascadeReady _ _ _ | fileEntered _ _ | documentLoaded _ _ _ _ => .debug
  | tokensStored _ _ _ _ | ruleMatched _ _ _ _ _ | elementEdited _ _ _ _ => .trace

/-- The part of the program that an event belongs to. -/
def topic : Event → String
  | ruleSkipped _ => "themerules::parser"
  | cascadeReady _ _ _ | ruleMatched _ _ _ _ _ => "themerules::cascade"
  | tokensStored _ _ _ _ => "themerules::styles"
  | documentMissing _ | unknownTheme _ _ _ | documentLoaded _ _ _ _ => "stylescale::config"
  | fileEntered _ _ | elementEdited _ _ _ _ => "stylescale::session"

def message : Event → String
  | ruleSkipped rejection =>
    s!"Skipping rule #{rejection.index} `" ++ rejection.text.shown ++ "`: " ++
      rejection.error.message
  | cascadeReady rules skipped themes =>
    s!"Resolver ready: {rules} rules ({skipped} skipped), {themes} themes"
  | tokensStored tag paintText variant count =>
    "STYLES: cached " ++ tag.name.shown ++ " + " ++ paintText.shown ++ " (" ++ variant.label ++
      s!") -> {count} tokens"
  | ruleMatched tag component index rule tokens =>
    "CASCADE: <" ++ tag.shown ++ "> in " ++ component.shown ++ s!" matched rule #{index} `" ++
      rule.render.shown ++ "` -> " ++ Text.quotedList tokens
  | fileEntered path component =>
    "Styling " ++ path.shown ++ " as component " ++ Text.quotedOption component
  | elementEdited tag component edit sources =>
    "<" ++ tag.shown ++ "> in " ++ Text.quotedOption component ++ ": " ++ edit.label ++
      " from [" ++ ", ".intercalate (sources.map Source.label) ++ "]"
  | documentLoaded path themes components rules =>
    "Loaded theme config " ++ path.shown ++
      s!": {themes} themes, {components} components, {rules} rules"
  | documentMissing path => "Config file not found at " ++ path.shown
  | unknownTheme place component theme =>
    place.label ++ "." ++ component.shown ++ " refers to unknown theme `" ++ theme.shown ++ "`"

/-- What stands before the message of an event. -/
def heading (event : Event) : String := "[" ++ event.level.label ++ "] " ++ event.topic ++ ": "

/-- The lines of an event; a message may have several. -/
def lines (event : Event) : List String :=
  ((event.heading ++ event.message).toList.splitOn '\n').map String.ofList

end Event

/-- What a line that warns of a section begins with. -/
def Section.heading (place : Section) : String :=
  (Event.unknownTheme place [] []).heading ++ place.label ++ "."

/-- The section that a line warns of. -/
def warnedSection? (line : String) : Option Section :=
  [Section.components, Section.darkMode].find? (·.heading.toList.isPrefixOf line.toList)

/-- Lines in a row that warn of one section, in the order of their texts. It is left open in which order the
entries of a section are warned of, as for the entries of a hash map. The order of the texts stands for all of
these orders, so logs that differ in nothing else have the same lines here. -/
def arranged (lines : List String) : List String :=
  (lines.splitBy fun a b => warnedSection? a = warnedSection? b).flatMap fun group =>
    if group.head?.any fun line => (warnedSection? line).isSome then
      group.mergeSort fun a b => a ≤ b
    else group

/-- The lines of the events up to a level, up to the open order of a section's warnings; without a level the
log is off. -/
def logLines (maximum : Option Level) (events : List Event) : List String :=
  arranged
    ((events.filter fun event => maximum.any (event.level.rank ≤ ·.rank)).flatMap Event.lines)

/-- A process keeps one log. -/
inductive LogError where
  | alreadyInstalled
deriving DecidableEq

def LogError.message : LogError → String
  | alreadyInstalled => "A logger was already installed"

/-- The level of a log, unless one is kept already. -/
def installLog (current : Option Level) (level : Level) : Except LogError Level :=
  match current with
  | none => .ok level
  | some _ => .error .alreadyInstalled

end ThemeCascade
