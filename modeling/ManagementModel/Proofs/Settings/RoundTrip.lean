import ManagementModel.Proofs.Files.Tree
import ManagementModel.Proofs.Json.Typed
import ManagementModel.Proofs.Settings.Layers
import ManagementModel.Proofs.Text.Utf8
import ManagementModel.Settings.File

/-!
# ManagementModel — settings that were kept

The document of settings has a member for each of them, under the name that is looked for when it
is read. So the layer that is read from it leaves no setting open, and the defaults have no part in
the settings that come of it. What is absent is shown as null, which is another value than the empty
text.

Main results:

* `layer_of_text` — the document gives each setting its value.
* `ofFile_save` — settings that were kept in a file are read from it unchanged.
-/

namespace ManagementModel.Settings

open Json.Reader (Takes Changes takes_text takes_flag takes_unsigned takes_null takes_some
  takes_record run_of_takes)

variable {s : Settings} {path : Files.Path}

/-! ## The document -/

/-- What a document shows for a setting. -/
def shown (s : Settings) : Setting → Json
  | .baseUrl => .string s.baseUrl
  | .username => textOrNull s.username
  | .password => textOrNull s.password
  | .timeoutSeconds => .ofUInt64 s.timeoutSeconds
  | .standalone => .bool s.standalone

/-- The document has a member for each setting, under the name of the setting. -/
theorem toJson_eq (s : Settings) :
    s.toJson = .object (Setting.all.map fun f => (f.name, s.shown f)) :=
  rfl

/-- A text that may be absent is read back, be it empty or not there. -/
theorem takes_textOrNull (spacing : Json.Spacing) (o : Option String) :
    Takes spacing (fun fuel => Json.Reader.optional (Json.Reader.text fuel)) (textOrNull o) o := by
  cases o with
  | none => exact takes_null _
  | some text =>
    -- a text begins with a quote, so it is not taken for null
    refine takes_some (c := '"') (takes_text text) (by decide) (by decide) ?_
    intro level rest
    exact ⟨_, Json.Reader.quote_append text rest⟩

/-- What is shown for a setting is read back as its value. -/
theorem takes_shown (spacing : Json.Spacing) (s : Settings) (f : Setting) :
    Takes spacing f.read (s.shown f) (s.value f) := by
  cases f with
  | baseUrl => exact takes_text s.baseUrl
  | username => exact takes_textOrNull spacing s.username
  | password => exact takes_textOrNull spacing s.password
  | timeoutSeconds => exact takes_unsigned s.timeoutSeconds
  | standalone => exact takes_flag s.standalone

/-- The member of a setting is read into the layer as its value. -/
theorem changes_shown (spacing : Json.Spacing) (s : Settings) (f : Setting) :
    Changes spacing Layer.fields (f.name, s.shown f) fun l => l.give f (s.value f) := by
  refine ⟨⟨f.name, fun fuel l => do return l.give f (← f.read fuel)⟩, ?_, fun l => ?_⟩
  · -- the name of each setting finds its own field
    cases f <;> rfl
  · exact (takes_shown spacing s f).map (l.give f)

/-- The document of settings leaves none of them open. -/
theorem layer_of_text (s : Settings) : Layer.ofText s.text = .ok fun f => some (s.value f) := by
  -- no name stands twice in the document
  have hnames : Fields.Distinct (Setting.all.map fun f => (f.name, s.shown f)) := by
    show (Setting.all.map Setting.name).Nodup
    decide
  have hchanges : List.Forall₂ (Changes .pretty Layer.fields)
      (Setting.all.map fun f => (f.name, s.shown f))
      (Setting.all.map fun f (l : Layer) => l.give f (s.value f)) := by
    rw [List.forall₂_map_left_iff, List.forall₂_map_right_iff, List.forall₂_same]
    exact fun f _ => changes_shown .pretty s f
  have hrecord := takes_record Json.Spacing.blank_pretty hchanges hnames
    "struct DispatchConfig" Layer.empty
  -- each setting is given once, so in the end all are
  have hall : (Setting.all.map fun f (l : Layer) => l.give f (s.value f)).foldl
      (fun l give => give l) Layer.empty = fun f => some (s.value f) := by
    funext f
    cases f <;> rfl
  rw [hall, ← toJson_eq] at hrecord
  exact run_of_takes hrecord

/-! ## The file -/

/-- The document of settings, as the content of a file, is read as the settings. -/
theorem ofContent_text (path : Files.Path) (s : Settings) :
    ofContent path (.ok (Text.Utf8.bytes s.text)) = .ok s := by
  have hgives : FileGives (.ok (Text.Utf8.bytes s.text)) fun f => some (s.value f) :=
    .document rfl (Text.Utf8.decode?_bytes s.text) (layer_of_text s)
  exact ofContent_eq_ok_iff.mpr ⟨_, hgives, rfl⟩

/-- Keeping settings ends with writing their document, when the directory is there. -/
theorem exists_of_save {files files' : Files.Tree} (h : s.save files path = (files', .ok ())) :
    ∃ made : Files.Tree, made.write path (Text.Utf8.bytes s.text) = .ok files' := by
  unfold save at h
  dsimp only at h
  split at h
  · cases h
  · -- the directory is there, so the document is written
    next made _ =>
    split at h
    · cases h
    · next hwrite =>
      cases h
      exact ⟨made, hwrite⟩

/-- Settings that were kept in a file are read from it unchanged, whatever the texts are made of:
what was absent is absent, and what was empty is empty. Files are only asked to return what was
written into them. -/
theorem ofFile_save (s : Settings) (path : Files.Path) :
    (∀ files files', s.save files path = (files', .ok ()) →
      files'.read path = .ok (Text.Utf8.bytes s.text) ∧ ofFile files' path = .ok s) ∧
    ∀ read : Files.Path → Except Files.FileError (List UInt8),
      read path = .ok (Text.Utf8.bytes s.text) → ofContent path (read path) = .ok s := by
  refine ⟨fun files files' h => ?_, fun read h => ?_⟩
  · obtain ⟨made, hwrite⟩ := exists_of_save h
    have hread := Files.Tree.read_write hwrite
    refine ⟨hread, ?_⟩
    unfold ofFile
    rw [hread]
    exact ofContent_text path s
  · rw [h]
    exact ofContent_text path s

/-- Texts that have to be escaped, an empty password, no user, and the longest timeout. -/
theorem ofFile_save_escaped :
    let s : Settings := ⟨"http://\"h\"\\\n\x01é€𝄞", none, some "", 0xffffffffffffffff, false⟩
    let path := Files.Path.ofText "/etc/hal/console.json"
    (s.save {} path).2 = .ok () ∧ ofFile (s.save {} path).1 path = .ok s := by
  intro s path
  have hsave : (s.save {} path).2 = .ok () := by decide +kernel
  exact ⟨hsave, ((ofFile_save s path).1 {} _ (Prod.ext rfl hsave)).2⟩

end ManagementModel.Settings
