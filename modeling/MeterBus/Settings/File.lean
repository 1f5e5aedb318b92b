import MeterBus.Document.Reader
import MeterBus.Host
import MeterBus.Settings.Schema

/-!
# Settings files

Settings are read from a TOML document, which is a file of the host.
-/

namespace MeterBus

/-- Why no settings could be read. -/
inductive SettingsError where
  /-- The file cannot be read. -/
  | unreadable (path : String) (cause : SystemError)
  /-- The text is no document, or one that is not about settings. -/
  | malformed
  deriving DecidableEq, Repr

/-- The text that reports why no settings could be read. -/
def SettingsError.message : SettingsError → String
  | .unreadable path _ => "read config " ++ path
  | .malformed => "parse config"

/-- The serial settings that a document of their own holds. -/
def SerialSettings.parse? (text : String) : Option SerialSettings := do
  Schema.keyed Schema.serial {} (← Document.parse? text)

/-- The settings that a document holds. -/
def Settings.parse (text : String) : Except SettingsError Settings :=
  match Document.parse? text >>= Schema.keyed Schema.settings {} with
  | some settings => .ok settings
  | none => .error .malformed

/-- The settings that a file holds. -/
def Settings.load (host : Host) (path : String) : Except SettingsError Settings :=
  match host.readText path with
  | .ok text => Settings.parse text
  | .error cause => .error (.unreadable path cause)

end MeterBus
