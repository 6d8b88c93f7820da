import Understudy.Engine.Settings
import Understudy.Wire.Shape

/-!
# Settings from files

Settings are kept in YAML files. Sizes of zero are refused here.

## Main definitions

* `SettingsError`: why settings are not had
* `Settings.ofFile`: the settings in a file
-/

namespace Understudy

/-- Why settings are not had from a file. -/
inductive SettingsError where
  /-- There is no such file, or its bytes are no text. -/
  | unreadable
  | malformed
  | defect (defect : Settings.Defect)
deriving DecidableEq

/-- The settings in a file, given its bytes if there is such a file. -/
def Settings.ofFile (content : Option ByteArray) : Except SettingsError Settings :=
  match content.bind String.fromUTF8? with
  | none => .error .unreadable
  | some text =>
    match Settings.ofYamlText? text with
    | none => .error .malformed
    | some settings =>
      match settings.defect? with
      | some defect => .error (.defect defect)
      | none => .ok settings

end Understudy
