import StationHub.Settings.Fields
import StationHub.Toml.Reader

/-!
Settings files: TOML documents whose top-level keys are the fields of the settings. A file that
cannot be read, is not UTF-8, is not TOML or has unsuitable values is told apart from one whose
settings are flawed.
-/

namespace StationHub.Settings

/-- What a TOML value can set a field to. A choice may be written as a table with that one key and
nothing in it. -/
def Entry.ofToml : Toml → Entry
  | .text value => .text value
  | .whole value => .whole value
  | .table _ [(name, .table _ [])] => .choice name
  | .table _ [(name, .array _ [])] => .choice name
  | _ => .other

/-- The settings that the TOML document `text` gives, checked. -/
def ofToml? (text : String) : Except Failure Settings :=
  match Toml.ofText? text with
  | none => .error .toml
  | some entries =>
      match ofFields? (entries.map fun entry => (entry.1, Entry.ofToml entry.2)) with
      | none => .error .toml
      | some settings => settings.check

/-- The settings in the file with the given bytes, or in a file that cannot be read. -/
def ofFile? : Option (List UInt8) → Except Failure Settings
  | none => .error .io
  | some bytes =>
      match Text.ofUtf8? bytes with
      | none => .error .io
      | some text => ofToml? text

end StationHub.Settings
