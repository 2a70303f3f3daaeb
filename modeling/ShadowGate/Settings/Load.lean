import ShadowGate.Disk
import ShadowGate.Settings.Environment
import ShadowGate.Settings.File

/-!
# Loading settings

Settings come in layers: defaults, then a settings file, then the environment. The file may be
missing. What results is brought into normal form.

* `Settings.loadFrom` — with a given path for the file; `.toml` may be left out.
* `Settings.load` — with the path that the variable `PAGI_SHADOW_CONFIG` gives, or the usual one.
-/

namespace ShadowGate.Settings

/-- How a path to a settings file ends. -/
def fileEnding : String := ".toml"

/-- Whether a path names a file with the ending of settings files. -/
def hasEnding (p : Path) : Bool :=
  let name := p.parts.getLast?.getD ""
  fileEnding.toList.isSuffixOf name.toList && name != fileEnding

/-- The text of the settings file at a path: the file itself, which must have the ending, or the
file that results from adding it. -/
def fileText? (d : Disk) (path : String) : Option String :=
  let p := Path.ofText path
  if d.isFile p then
    if hasEnding p then d.textAt? p else none
  else (p.withEnding? fileEnding).bind d.textAt?

/-- The assignments of the file at a path; a missing file makes none. -/
def fileAssignments? (d : Disk) (path : String) : Option Assignments :=
  match fileText? d path with
  | none => some ∅
  | some text => File.read text

/-- **Load settings** with the file at a path. -/
def loadFrom (d : Disk) (env : Environment) (path : String) : Except StoreError Settings :=
  match (fileAssignments? d path).bind fun a => ofAssignments? (env.overlay a) with
  | some s => .ok s.normalized
  | none => .error .config

/-- Where the settings file is, unless the environment says otherwise. -/
def usualPath : String := "config/shadow"

/-- The variable that says where the settings file is. -/
def pathVariable : String := "PAGI_SHADOW_CONFIG"

/-- **Load settings** with the file that the environment names, or the usual one. -/
def load (d : Disk) (env : Environment) : Except StoreError Settings :=
  loadFrom d env ((env.get? pathVariable).getD usualPath)

end ShadowGate.Settings
