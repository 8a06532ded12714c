import ThemeCascade.Configuration.Document
import ThemeCascade.Files
import ThemeCascade.Log

/-! Getting a configuration from a document or a file. A file that is missing is an empty configuration;
one that cannot be read or understood is an error. -/

namespace ThemeCascade

inductive LoadError where
  | unreadable (failure : Files.Failure)
  | malformed (path source : Text) (fault : Json.Fault)
deriving DecidableEq

def LoadError.message : LoadError → String
  | unreadable failure => "I/O error: " ++ failure.message
  | malformed path source fault =>
    "Invalid theme configuration in " ++ path.shown ++ ": " ++ fault.message source

namespace Configuration

/-- The theme that a paint refers to, if it is not configured. A custom value needs no theme. -/
def unknownTheme? (config : Configuration) (paintText : Text) : Option Text :=
  match Paint.ofText paintText with
  | .theme name => if config.themes.contains name then none else some name
  | .custom _ => none

def unknownThemes (config : Configuration) (place : Section) (paints : NameMap Text) : List Event :=
  paints.toList.filterMap fun (component, paintText) =>
    (config.unknownTheme? paintText).map (Event.unknownTheme place component)

/-- One warning for each entry whose theme is not configured. -/
def warnings (config : Configuration) : List Event :=
  config.unknownThemes .components config.components ++
    config.unknownThemes .darkMode config.darkMode

/-- The configuration of a document, with its warnings. The path is for errors only. -/
def ofDocument (source path : Text) : Except LoadError (Configuration × List Event) :=
  match parse source with
  | .ok config => .ok (config, config.warnings)
  | .error fault => .error (.malformed path source fault)

theorem ofDocument_eq_ok_iff {source path : Text} {config : Configuration} {events : List Event} :
    ofDocument source path = .ok (config, events) ↔ parse source = .ok config ∧ config.warnings = events := by
  unfold ofDocument
  cases parse source with
  | error fault => simp
  | ok config' =>
      simp only [Except.ok.injEq, Prod.mk.injEq]
      exact ⟨fun ⟨h, hevents⟩ => ⟨h, h ▸ hevents⟩, fun ⟨h, hevents⟩ => ⟨h, h ▸ hevents⟩⟩

def defaultPath : Text := "theme.config.json".toList

/-- Where the configuration of a project is, given the project's root. -/
def pathIn (root : Text) (path : Option Text) : Text := Path.join root (path.getD defaultPath)

def load (files : Files) (path : Text) : Except LoadError (Configuration × List Event) :=
  match files.read path with
  | .ok source => do
    let (config, events) ← ofDocument source path
    return (config, events ++
      [.documentLoaded path config.themes.size config.components.size config.rules.length])
  | .error .notFound => .ok (.empty, [.documentMissing path])
  | .error failure => .error (.unreadable failure)

end Configuration

end ThemeCascade
