import Joinery.Files
import Joinery.Settings.Basic
import Joinery.Yaml.Reader
import Joinery.Yaml.Writer

/-!
# Settings files

Settings in YAML. Without a file there are the defaults.
-/
namespace Joinery.Settings

/-- The settings that the text of a file gives. -/
def ofText (text : String) : Except Failure Settings := do ofNode (← Yaml.read text)

/-- The text of a file with the settings. -/
def toText (s : Settings) : String :=
  match s.toNode with
  | .mapping entries => Yaml.write entries
  | _ => ""

/-- The settings of the file at a path, if there is a path and something is there. -/
def ofFile (files : Files) : Option String → Except Failure Settings
  | none => .ok {}
  | some path => do
    if ← files.isThere path then ofText (← files.read path) else return {}

end Joinery.Settings
