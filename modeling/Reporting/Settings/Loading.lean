import Reporting.Error
import Reporting.Settings.Toml
import Reporting.Wire.Settings

/-!
# Loading settings
-/

namespace Reporting.Settings

def parseFailure : ReportError := .config "failed to parse config"

def readFailure : ReportError := .config "failed to read config file"

def ofToml (s : String) : Except ReportError Settings :=
  match (Toml.ofText? s).bind ofJson? with
  | some settings => .ok settings
  | none => .error parseFailure

/-- The settings in a file of the given content, none when it cannot be read. -/
def ofFile : Option String → Except ReportError Settings
  | some s => ofToml s
  | none => .error readFailure

/-- The first of several files that can be used, in order; without any, everything has its
default. -/
def discover (files : List (Option String)) : Settings :=
  (files.findSome? fun content => (ofFile content).toOption).getD {}

end Reporting.Settings
