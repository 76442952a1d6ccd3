import ManagementModel.CommandLine.Session
import ManagementModel.Proofs.Decimal.Integer
import ManagementModel.Proofs.Json.Record
import ManagementModel.Proofs.Sequence
import Mathlib.Logic.Function.Basic

/-!
# ManagementModel — layers of settings

Each setting has up to three sources: an option, a variable and a member of the document in the
file. A source gives a value or leaves the setting open, and what all of them leave open has a
default. So the sources are layers, and a setting is what the first layer gives that does not leave
it open. The other settings have no part in that.

The document is read into settings that already have values, and not into a layer. That this comes
to the same is shown by reading it into a layer, setting by setting.

Main results:

* `Settings.ofText_eq` — a document completes settings by the layer that is read from it.
* `Settings.load_eq_ok_iff` — the file, below the variables.
* `CommandLine.Options.settings_by_layers` — all layers, when they can be read, and what they give.
-/

namespace ManagementModel

/-! ## Settings one by one -/

/-- One of the settings. -/
inductive Setting where
  | baseUrl
  | username
  | password
  | timeoutSeconds
  | standalone
deriving DecidableEq

namespace Setting

/-- What a setting is. -/
def Value : Setting → Type
  | baseUrl => String
  | username => Option String
  | password => Option String
  | timeoutSeconds => UInt64
  | standalone => Bool

/-- The value of a setting that no source gives. -/
def default : (f : Setting) → f.Value
  | baseUrl => "http://localhost:9990"
  | username => none
  | password => none
  | timeoutSeconds => (30 : UInt64)
  | standalone => true

/-- The name of a setting in a document. -/
def name : Setting → String
  | baseUrl => "baseUrl"
  | username => "username"
  | password => "password"
  | timeoutSeconds => "timeoutSecs"
  | standalone => "standalone"

/-- What a setting has to be in a document. -/
def read : (f : Setting) → (fuel : Nat) → Json.Reader f.Value
  | baseUrl => Json.Reader.text
  | username => fun fuel => Json.Reader.optional (Json.Reader.text fuel)
  | password => fun fuel => Json.Reader.optional (Json.Reader.text fuel)
  | timeoutSeconds => Json.Reader.unsigned
  | standalone => Json.Reader.flag

/-- The settings in the order they have in a list. -/
def all : List Setting := [baseUrl, username, password, timeoutSeconds, standalone]

end Setting

namespace Settings

def value (s : Settings) : (f : Setting) → f.Value
  | .baseUrl => s.baseUrl
  | .username => s.username
  | .password => s.password
  | .timeoutSeconds => s.timeoutSeconds
  | .standalone => s.standalone

/-- Settings are known by the values of all of them. -/
theorem ext_value {s t : Settings} (h : ∀ f, s.value f = t.value f) : s = t := by
  cases s
  cases t
  congr
  · exact h .baseUrl
  · exact h .username
  · exact h .password
  · exact h .timeoutSeconds
  · exact h .standalone

@[simp] theorem value_default (f : Setting) : ({} : Settings).value f = f.default := by
  cases f <;> rfl

/-- What a source gives, setting by setting. -/
def Layer : Type := (f : Setting) → Option f.Value

namespace Layer

/-- The layer that leaves everything open. -/
def empty : Layer := fun _ => none

/-- Settings, with what the layer gives in their place. -/
def above (l : Layer) (s : Settings) : Settings where
  baseUrl := (l .baseUrl).getD s.baseUrl
  username := (l .username).getD s.username
  password := (l .password).getD s.password
  timeoutSeconds := (l .timeoutSeconds).getD s.timeoutSeconds
  standalone := (l .standalone).getD s.standalone

/-- A setting is what the layer gives, or else what it was below. -/
@[simp] theorem value_above (l : Layer) (s : Settings) (f : Setting) :
    (l.above s).value f = (l f).getD (s.value f) := by
  cases f <;> rfl

/-- The layer with a value for one more setting. -/
def give (l : Layer) (f : Setting) (x : f.Value) : Layer := Function.update l f (some x)

/-- How the settings of a document are read into a layer. -/
def fields : List (Json.Reader.Field Layer) :=
  Setting.all.map fun f => ⟨f.name, fun fuel l => do return l.give f (← f.read fuel)⟩

/-- The layer of a document. -/
def ofText (text : String) : Except Json.SyntaxError Layer :=
  Json.Reader.run (Json.Reader.record "struct DispatchConfig" fields empty) text

end Layer

@[simp] theorem getD_map_some {α : Type} (o p : Option α) : (o.map some).getD p = o.or p := by
  cases o <;> rfl

/-! ## The file -/

/-- The fields of settings are read as those of a layer are. -/
theorem fields_follow : List.Forall₂ (Json.Reader.Field.Follows fun l : Layer => l.above {})
    Layer.fields fields := by
  -- reading a value into the layer is reading it into the settings that the layer completes
  have hset : ∀ (f : Setting) (set : f.Value → Settings → Settings),
      (∀ (l : Layer) x, (l.give f x).above {} = set x (l.above {})) →
      Json.Reader.Field.Follows (fun l : Layer => l.above {})
        ⟨f.name, fun fuel l => do return l.give f (← f.read fuel)⟩
        ⟨f.name, fun fuel s => do return set (← f.read fuel) s⟩ := by
    intro f set h
    refine ⟨rfl, fun fuel l => ?_⟩
    simp only [map_bind, map_pure, h]
  exact .cons (hset .baseUrl (fun x s => { s with baseUrl := x }) fun l x => rfl) <|
    .cons (hset .username (fun x s => { s with username := x }) fun l x => rfl) <|
    .cons (hset .password (fun x s => { s with password := x }) fun l x => rfl) <|
    .cons (hset .timeoutSeconds (fun x s => { s with timeoutSeconds := x }) fun l x => rfl) <|
    .cons (hset .standalone (fun x s => { s with standalone := x }) fun l x => rfl) .nil

/-- A document completes the defaults with the layer that it is read as. -/
theorem ofText_eq (text : String) : ofText text = (Layer.ofText text).map (·.above {}) :=
  Json.Reader.run_record_map fields_follow _ Layer.empty text

/-- What a file gives, by what was read of it. A file that is missing leaves everything open. -/
inductive FileGives (content : Except Files.FileError (List UInt8)) : Layer → Prop
  | missing (h : content = .error .notFound) : FileGives content .empty
  | document {bytes : List UInt8} {text : String} {l : Layer} (h : content = .ok bytes)
      (ht : Text.Utf8.decode? bytes = some text) (hl : Layer.ofText text = .ok l) :
      FileGives content l

/-- A file gives one layer only. -/
theorem FileGives.unique {content : Except Files.FileError (List UInt8)} {k l : Layer}
    (hk : FileGives content k) (hl : FileGives content l) : k = l := by
  cases hk with
  -- what was read of a file tells whether it is there
  | missing h =>
    cases hl with
    | missing => rfl
    | document h' => cases h.symm.trans h'
  | document h ht hk =>
    cases hl with
    | missing h' => cases h.symm.trans h'
    | document h' ht' hl =>
      -- the same bytes are the same text, which is read as the same layer
      obtain rfl := Except.ok.inj (h.symm.trans h')
      obtain rfl := Option.some.inj (ht.symm.trans ht')
      exact Except.ok.inj (hk.symm.trans hl)

/-- What a file holds is read as the defaults with the layer of the file above them. -/
theorem ofContent_eq_ok_iff {path : Files.Path} {content : Except Files.FileError (List UInt8)}
    {s : Settings} :
    ofContent path content = .ok s ↔ ∃ file, FileGives content file ∧ s = file.above {} := by
  constructor
  · intro h
    unfold ofContent at h
    split at h
    · -- a file that is missing gives nothing
      cases h
      exact ⟨.empty, .missing rfl, rfl⟩
    · cases h
    · next bytes =>
      split at h
      · cases h
      · next text htext =>
        -- the text is a document, whose layer completes the defaults
        rw [mapError_eq_ok_iff, ofText_eq, map_eq_ok_iff] at h
        obtain ⟨l, hl, hs⟩ := h
        exact ⟨l, .document rfl htext hl, hs.symm⟩
  · rintro ⟨file, hfile, rfl⟩
    cases hfile with
    | missing h =>
      rw [h]
      rfl
    | document h ht hl =>
      rw [h, ofContent, ht]
      show (ofText _).mapError _ = _
      rw [mapError_eq_ok_iff, ofText_eq, hl]
      rfl

/-! ## Variables -/

end Settings

namespace Variables

/-- The text of a variable, if a character of it is visible. -/
def visible? (v : Variables) (name : String) : Option String :=
  ((v.values.lookup name).bind Text.Utf8.decode?).filter fun text =>
    text.toList.any fun c => !Text.isBlankChar c

/-- A variable counts if a character of it is visible. -/
theorem text?_eq (v : Variables) (name : String) : v.text? name = v.visible? name := by
  unfold text? visible?
  cases v.values.lookup name with
  | none => rfl
  | some bytes =>
    show (Text.Utf8.decode? bytes).bind _ = (Text.Utf8.decode? bytes).filter _
    cases Text.Utf8.decode? bytes with
    | none => rfl
    | some text =>
      -- a text is blank if none of its characters is visible
      have hblank : (text.toList.any fun c => !Text.isBlankChar c) = !Text.isBlank text := by
        rw [Text.isBlank, List.not_all_eq_any_not]
      rw [Option.filter_some, hblank]
      show (if Text.isBlank text = true then none else some text) = _
      cases Text.isBlank text with
      | true => rfl
      | false => rfl

/-- What the variables give. A word that names a domain is no single server. -/
def layer (v : Variables) : Settings.Layer
  | .baseUrl => v.visible? "HAL_MANAGEMENT_URL"
  | .username => (v.visible? "HAL_USERNAME").map some
  | .password => (v.visible? "HAL_PASSWORD").map some
  | .timeoutSeconds =>
    (v.visible? "HAL_TIMEOUT_SECS").bind fun text => Decimal.uint64? (Text.trim text)
  | .standalone => (v.visible? "HAL_DOMAIN").map fun text =>
    decide (String.ofList (text.toList.map Char.toLower) ∉ ["1", "true", "yes"])

/-- The timeout is left open, or is a whole number that a word holds, with blanks around it. -/
def TimeoutFits (v : Variables) : Prop :=
  ∀ text, v.visible? "HAL_TIMEOUT_SECS" = some text →
    ∃ n, Decimal.SpellsUnsigned (Text.trim text).toList n ∧ n < 0x10000000000000000

end Variables

namespace Settings

variable {v : Variables} {s t : Settings}

/-- What the variables give, setting by setting. -/
theorem above_variables (v : Variables) (s : Settings) : v.layer.above s = {
    baseUrl := (v.visible? "HAL_MANAGEMENT_URL").getD s.baseUrl
    username := (v.visible? "HAL_USERNAME").or s.username
    password := (v.visible? "HAL_PASSWORD").or s.password
    timeoutSeconds := ((v.visible? "HAL_TIMEOUT_SECS").bind fun text =>
      Decimal.uint64? (Text.trim text)).getD s.timeoutSeconds
    standalone :=
      ((v.visible? "HAL_DOMAIN").map fun text => !namesDomain text).getD s.standalone } := by
  refine ext_value fun f => ?_
  rw [Layer.value_above]
  -- two of the settings may be absent themselves, and one is told by a word
  cases f with
  | baseUrl | timeoutSeconds => rfl
  | username | password => exact getD_map_some _ _
  | standalone =>
    show ((v.visible? "HAL_DOMAIN").map _).getD s.standalone = _
    cases v.visible? "HAL_DOMAIN" with
    | none => rfl
    | some text =>
      show decide _ = !namesDomain text
      simp only [namesDomain, List.contains_eq_mem, decide_not]

/-- Settings are overridden by the layer of the variables, unless the timeout does not fit. -/
theorem overrideBy_eq_iff : s.overrideBy v = (t, .ok ()) ↔ v.TimeoutFits ∧ t = v.layer.above s := by
  unfold overrideBy Variables.TimeoutFits timeoutVariable
  rw [above_variables]
  simp only [Variables.text?_eq, ← Decimal.exists_uint64?_iff]
  cases v.visible? "HAL_TIMEOUT_SECS" with
  | none =>
    -- without the variable nothing can go wrong
    simp only [Prod.mk.injEq, and_true, reduceCtorEq, false_implies, implies_true, true_and,
      Option.bind_none, Option.getD_none]
    exact eq_comm
  | some text =>
    simp only [Option.some.injEq, forall_eq', Option.bind_some]
    -- the variable is there, and its text decides
    cases Decimal.uint64? (Text.trim text) with
    | none => simp
    | some n =>
      simp only [Prod.mk.injEq, and_true, Option.some.injEq, exists_eq', true_and, Option.getD_some]
      exact eq_comm

variable {read : Files.Path → Except Files.FileError (List UInt8)}

/-- A process is started with the layer of the variables above that of the file. -/
theorem load_eq_ok_iff : load read v = .ok s ↔ v.TimeoutFits ∧
    ∃ file, FileGives (read v.settingsPath) file ∧ s = v.layer.above (file.above {}) := by
  -- the settings are returned only if nothing went wrong when they were overridden
  have hsteps : ∀ p : Settings × Except SettingsError Unit,
      (do p.2; return p.1 : Except SettingsError Settings) = .ok s ↔ p = (s, .ok ()) := by
    rintro ⟨t, overridden⟩
    cases overridden <;> simp
  unfold load
  rw [bind_eq_ok_iff]
  constructor
  · rintro ⟨t, hread, h⟩
    obtain ⟨file, hfile, rfl⟩ := ofContent_eq_ok_iff.mp hread
    obtain ⟨hfits, hs⟩ := overrideBy_eq_iff.mp ((hsteps _).mp h)
    exact ⟨hfits, file, hfile, hs⟩
  · rintro ⟨hfits, file, hfile, hs⟩
    refine ⟨file.above {}, ofContent_eq_ok_iff.mpr ⟨file, hfile, rfl⟩, ?_⟩
    exact (hsteps _).mpr (overrideBy_eq_iff.mpr ⟨hfits, hs⟩)

end Settings

/-! ## Options -/

namespace CommandLine.Options

/-- What the options give. -/
def layer (o : Options) : Settings.Layer
  | .baseUrl => o.url
  | .username => o.user.map some
  | .password => o.password.map some
  | .timeoutSeconds => none
  | .standalone => if o.domain then some false else none

/-- Options override settings as the layer of the options does. -/
@[simp] theorem override_eq (o : Options) (s : Settings) : o.override s = o.layer.above s := by
  refine Settings.ext_value fun f => ?_
  rw [Settings.Layer.value_above]
  cases f with
  | baseUrl | timeoutSeconds => rfl
  | username | password => exact (Settings.getD_map_some _ _).symm
  | standalone =>
    -- the flag can take the single server away, but not bring it in
    show (s.standalone && !o.domain) =
      (if o.domain = true then some false else none).getD s.standalone
    cases o.domain with
    | true => exact Bool.and_false _
    | false => exact Bool.and_true _

variable {o : Options} {read : Files.Path → Except Files.FileError (List UInt8)} {v : Variables}
  {s : Settings}

/-- The settings of a command line are all layers above each other. -/
theorem settings_eq_ok_iff : o.settings read v = .ok s ↔ v.TimeoutFits ∧
    ∃ file, Settings.FileGives (read v.settingsPath) file ∧
      s = o.layer.above (v.layer.above (file.above {})) := by
  unfold settings
  rw [mapError_eq_ok_iff, map_eq_ok_iff]
  constructor
  · rintro ⟨t, hload, rfl⟩
    obtain ⟨hfits, file, hfile, rfl⟩ := Settings.load_eq_ok_iff.mp hload
    exact ⟨hfits, file, hfile, override_eq ..⟩
  · rintro ⟨hfits, file, hfile, rfl⟩
    exact ⟨_, Settings.load_eq_ok_iff.mpr ⟨hfits, file, hfile, rfl⟩, override_eq ..⟩

/-- A setting is what the first of its sources gives, or else its default. -/
theorem value_of_settings (h : o.settings read v = .ok s) {file : Settings.Layer}
    (hfile : Settings.FileGives (read v.settingsPath) file) (f : Setting) :
    s.value f = ((o.layer f).or ((v.layer f).or (file f))).getD f.default := by
  obtain ⟨-, file', hfile', rfl⟩ := settings_eq_ok_iff.mp h
  obtain rfl := hfile'.unique hfile
  simp [Option.getD_or]

/-- A setting of a command line is what the first of its sources gives: the option, the variable,
the document in the file. Without any it has its default. So it does not depend on the sources of
other settings. The settings can be told if the file is missing or holds a document that can be
read, and the timeout of the variables fits. -/
theorem settings_by_layers (o : Options) (read : Files.Path → Except Files.FileError (List UInt8))
    (v : Variables) :
    ((∃ s, o.settings read v = .ok s) ↔
      (∃ file, Settings.FileGives (read v.settingsPath) file) ∧ v.TimeoutFits) ∧
    ∀ s file, o.settings read v = .ok s → Settings.FileGives (read v.settingsPath) file →
      (∀ f, s.value f = ((o.layer f).or ((v.layer f).or (file f))).getD f.default) ∧
      ∀ (o' : Options) (read' : Files.Path → Except Files.FileError (List UInt8)) (v' : Variables)
        (s' : Settings) (file' : Settings.Layer), o'.settings read' v' = .ok s' →
        Settings.FileGives (read' v'.settingsPath) file' →
        ∀ f, o.layer f = o'.layer f → v.layer f = v'.layer f → file f = file' f →
          s.value f = s'.value f := by
  refine ⟨⟨?_, ?_⟩, fun s file h hfile => ⟨value_of_settings h hfile, ?_⟩⟩
  · rintro ⟨s, h⟩
    obtain ⟨hfits, file, hfile, -⟩ := settings_eq_ok_iff.mp h
    exact ⟨⟨file, hfile⟩, hfits⟩
  · rintro ⟨⟨file, hfile⟩, hfits⟩
    exact ⟨_, settings_eq_ok_iff.mpr ⟨hfits, file, hfile, rfl⟩⟩
  · intro o' read' v' s' file' h' hfile' f ho hv hf
    -- each value is told by the sources of this setting alone
    rw [value_of_settings h hfile, value_of_settings h' hfile', ho, hv, hf]

/-- The user is given by an option and a variable, the timeout by a variable, and the address by the
document. The password is null there and blank in its variable. -/
theorem settings_by_layers_mixed :
    let o : Options := { user := some "admin", domain := true }
    let document := "\x7b\"password\":null,\"baseUrl\":\"http://h\",\"standalone\":true\x7d"
    let read : Files.Path → Except Files.FileError (List UInt8) :=
      fun _ => .ok (Text.Utf8.bytes document)
    let v : Variables := ⟨[("HAL_TIMEOUT_SECS", Text.Utf8.bytes " 5 "),
      ("HAL_USERNAME", Text.Utf8.bytes "guest"), ("HAL_PASSWORD", Text.Utf8.bytes " ")], none⟩
    o.settings read v = .ok ⟨"http://h", some "admin", none, 5, false⟩ := by
  intro o document read v
  have hcontent : Settings.ofContent v.settingsPath (read v.settingsPath) =
      .ok { baseUrl := "http://h" } := by decide +kernel
  obtain ⟨file, hfile, habove⟩ := Settings.ofContent_eq_ok_iff.mp hcontent
  have htimeout : v.visible? "HAL_TIMEOUT_SECS" = some " 5 " := by decide +kernel
  have hfits : v.TimeoutFits := by
    intro text htext
    obtain rfl := Option.some.inj (htimeout.symm.trans htext)
    exact Decimal.exists_uint64?_iff.mp ⟨5, by decide +kernel⟩
  obtain ⟨s, hs⟩ := (settings_by_layers o read v).1.mpr ⟨⟨file, hfile⟩, hfits⟩
  have hvalue := ((settings_by_layers o read v).2 s file hs hfile).1
  have hopen : ∀ f, (file f).getD f.default = ({ baseUrl := "http://h" } : Settings).value f := by
    simp [habove]
  rw [hs]
  -- the settings are compared one by one
  refine congrArg Except.ok (Settings.ext_value fun f => ?_)
  rw [hvalue f]
  cases f with
  | username | standalone => rfl
  | baseUrl =>
    have hnone : v.layer .baseUrl = none :=
      show v.visible? "HAL_MANAGEMENT_URL" = none by decide +kernel
    rw [hnone]
    exact hopen .baseUrl
  | password =>
    have hnone : v.layer .password = none :=
      show (v.visible? "HAL_PASSWORD").map some = none by decide +kernel
    rw [hnone]
    exact hopen .password
  | timeoutSeconds =>
    have hfive : v.layer .timeoutSeconds = some (5 : UInt64) :=
      show ((v.visible? "HAL_TIMEOUT_SECS").bind fun text => Decimal.uint64? (Text.trim text)) =
        some (5 : UInt64) by decide +kernel
    rw [hfive]
    rfl

end CommandLine.Options

end ManagementModel
