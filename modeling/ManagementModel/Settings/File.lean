import ManagementModel.Files.Tree
import ManagementModel.Settings.Variables

/-!
# ManagementModel — settings in files

Settings are read from a file; the defaults stand for a file that is missing. They are kept by
writing the document into a file, whose directory is made if need be.
-/

namespace ManagementModel.Settings

/-- The settings in what was read under a path. -/
def ofContent (path : Files.Path) : Except Files.FileError (List UInt8) →
    Except SettingsError Settings
  | .error .notFound => .ok {}
  | .error cause => .error (.unreadable path cause)
  | .ok bytes =>
    match Text.Utf8.decode? bytes with
    | none => .error (.unreadable path .notText)
    | some text => (ofText text).mapError (.malformed path)

/-- The settings in a file. -/
def ofFile (files : Files.Tree) (path : Files.Path) : Except SettingsError Settings :=
  ofContent path (files.read path)

/-- The settings that a process is started with: those of the file, overridden by variables. The
file is given by a reading function. -/
def load (read : Files.Path → Except Files.FileError (List UInt8)) (v : Variables) :
    Except SettingsError Settings := do
  let s ← ofContent v.settingsPath (read v.settingsPath)
  let (s, overridden) := s.overrideBy v
  overridden
  return s

/-- Keeps settings in a file. -/
def save (files : Files.Tree) (path : Files.Path) (s : Settings) :
    Files.Tree × Except SettingsError Unit :=
  let directory := path.parent?.getD ⟨[]⟩
  match files.makeDirectories directory with
  | (files, .error cause) => (files, .error (.unwritable directory cause))
  | (files, .ok ()) =>
    match files.write path (Text.Utf8.bytes s.text) with
    | .error cause => (files, .error (.unwritable path cause))
    | .ok files => (files, .ok ())

end ManagementModel.Settings
