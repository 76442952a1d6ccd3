import ManagementModel.Decimal.Integer
import ManagementModel.Files.Path
import ManagementModel.Settings.Basic
import ManagementModel.Text.Blank

/-!
# ManagementModel — settings in environment variables

Some variables override settings, and some tell where the settings are kept. A variable that is
blank or is no text counts as not being set.
-/

namespace ManagementModel

/-- The variables that a process was started with. -/
structure Variables where
  values : List (String × List UInt8) := []
  /-- The home directory on record for the account, for when no variable tells it. -/
  accountHome : Option Files.Path := none
deriving Repr

namespace Variables

/-- The text of a variable, unless it is blank. -/
def text? (v : Variables) (name : String) : Option String := do
  let text ← Text.Utf8.decode? (← v.values.lookup name)
  if Text.isBlank text then none else some text

/-! ## Where the settings are -/

/-- The path in a variable, which need not be a text. -/
def path? (v : Variables) (name : String) : Option Files.Path :=
  (v.values.lookup name).map Files.Path.mk

def home? (v : Variables) : Option Files.Path :=
  ((v.path? "HOME").filter fun p => !p.bytes.isEmpty).or v.accountHome

/-- The directory of all settings of a user. -/
def settingsDirectory (v : Variables) : Files.Path :=
  (((v.path? "XDG_CONFIG_HOME").filter (·.isAbsolute)).or
    (v.home?.map (·.join (.ofText ".config")))).getD (.ofText ".")

/-- A path that begins at the home directory if it begins with a tilde and a slash. -/
def expandHome (v : Variables) (path : String) : Files.Path :=
  match path.toList with
  | '~' :: '/' :: rest =>
    match v.home? with
    | some home => home.join (.ofText (String.ofList rest))
    | none => .ofText path
  | _ => .ofText path

/-- The path of the settings. -/
def settingsPath (v : Variables) : Files.Path :=
  match v.text? "HAL_CONFIG_PATH" with
  | some path => v.expandHome path
  | none => (v.settingsDirectory.join (.ofText "hal")).join (.ofText "console.json")

end Variables

/-! ## What overrides settings -/

namespace Settings

/-- The variable of the timeout. -/
def timeoutVariable : String := "HAL_TIMEOUT_SECS"

/-- The words that stand for a domain of servers; capital letters count as small ones. Of all
capital letters only those of ASCII have a small letter that occurs here. -/
def namesDomain (text : String) : Bool :=
  ["1", "true", "yes"].contains (String.ofList (text.toList.map Char.toLower))

/-- Overrides settings by variables, in order. A timeout that is no number ends this, and what was
overridden before stays so. -/
def overrideBy (v : Variables) (s : Settings) : Settings × Except SettingsError Unit :=
  let s := { s with
    baseUrl := (v.text? "HAL_MANAGEMENT_URL").getD s.baseUrl
    username := (v.text? "HAL_USERNAME").or s.username
    password := (v.text? "HAL_PASSWORD").or s.password }
  let standalone := ((v.text? "HAL_DOMAIN").map fun text => !namesDomain text).getD s.standalone
  match v.text? timeoutVariable with
  | none => ({ s with standalone := standalone }, .ok ())
  | some text =>
    match Decimal.uint64? (Text.trim text) with
    | none => (s, .error (.invalidValue timeoutVariable text))
    | some n => ({ s with timeoutSeconds := n, standalone := standalone }, .ok ())

end Settings

end ManagementModel
