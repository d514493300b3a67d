import BatchChanges.FileTree
import BatchChanges.Settings
import BatchChanges.Text.Blank
import BatchChanges.Yaml.Reader

/-! # The settings file

Settings are kept below a home directory. Where there is no file, or a blank one, all settings have
their defaults; what stands in a file has to be a YAML mapping.
-/

namespace BatchChanges

namespace Settings

/-- The path of the settings file below a home directory. -/
def pathAt (home : String) : String := home ++ "/.batches/config.yaml"

/-- Why there are no settings. -/
inductive LoadError where
  /-- What is at the path cannot be read as text. -/
  | unreadable (path : String)
  /-- The text is no YAML, or gives no settings. -/
  | malformed (path : String)
  /-- It is unknown where the home directory is. -/
  | homeNotFound
deriving DecidableEq

namespace LoadError

/-- The start of the message, up to the path. -/
def message : LoadError → String
  | unreadable path => "I/O error at " ++ path
  | malformed path => "failed to parse config at " ++ path
  | homeNotFound => "cannot determine home directory; set $HOME or equivalent"

end LoadError

def ofYaml? (source : String) : Option Settings := (Yaml.parse? source).bind read?

/-- Loads the settings from what is found at the path of the settings file. -/
def load (home : String) (found : Option FileContent) : Except LoadError Settings :=
  match found with
  | none => .ok {}
  | some content =>
    match content.text? with
    | none => .error (.unreadable (pathAt home))
    | some source =>
      if Text.isAllBlank source.toList then .ok {}
      else
        match ofYaml? source with
        | some settings => .ok settings
        | none => .error (.malformed (pathAt home))

end Settings

end BatchChanges
