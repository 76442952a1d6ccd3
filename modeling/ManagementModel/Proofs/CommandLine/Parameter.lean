import ManagementModel.Proofs.CommandLine.Value
import ManagementModel.Proofs.Node.Equality

/-!
# ManagementModel — what parameters are read as

The name of a parameter is told by its text alone: it stands in front of the first equals sign, and
whatever the value is read as, the name stays. So the names of parameters that were read are known
before any value is.

The values are trees that equal themselves. Those that are not read from JSON have no parts, and a
document has neither repeated names nor a NaN.

Main results:

* `names_of_readParameters` — the names of parameters, from left to right.
* `wellFormed_of_readParameter`, `nanFree_of_readParameter` — their values.
-/

namespace ManagementModel.CommandLine

/-- What stands in front of the first equals sign, without the blanks around it. -/
def givenName (text : String) : String :=
  String.ofList (Text.trimChars (text.toList.takeWhile (· != '=')))

variable {name text : String} {p : String × Node} {n : Node}

/-! ## Values -/

/-- A value has no parts and is no double, or it is read from JSON. -/
theorem cases_of_readValue (h : readValue name text = .ok n) :
    n.kind.isContainer = false ∧ n.NaNFree ∨ Node.ofJsonText text = .ok n := by
  cases readValue_eq_ok_iff.mp h with
  | asTrue | asFalse | asString => exact .inl ⟨rfl, Node.nanFree_scalar rfl nofun⟩
  | asJson _ h => exact .inr h
  | @asNumber v _ =>
    -- a word is far from the numbers that are too large for a double
    have hlt : v.toInt < 0x10000000000000000 := by
      have := v.toInt_lt
      omega
    exact .inl ⟨Node.isContainer_ofWhole _, Node.nanFree_ofWhole hlt⟩

/-! ## Parameters -/

/-- A parameter has the name that its text gives it, and a value that was read. -/
theorem exists_of_readParameter (h : readParameter text = .ok p) :
    p.1 = givenName text ∧ ∃ value, readValue p.1 value = .ok p.2 := by
  unfold readParameter at h
  simp only at h
  split at h
  · cases h
  · next value _ =>
    -- the name stands fixed before the value is read
    split at h
    · cases h
    · obtain ⟨n, hread, rfl⟩ := map_eq_ok_iff.mp h
      exact ⟨rfl, _, hread⟩

theorem wellFormed_of_readParameter (h : readParameter text = .ok p) : p.2.WellFormed := by
  obtain ⟨-, value, hread⟩ := exists_of_readParameter h
  rcases cases_of_readValue hread with ⟨hscalar, -⟩ | hjson
  · exact Node.wellFormed_of_not_container hscalar
  · exact Node.wellFormed_of_ofJsonText hjson

theorem nanFree_of_readParameter (h : readParameter text = .ok p) : p.2.NaNFree := by
  obtain ⟨-, value, hread⟩ := exists_of_readParameter h
  rcases cases_of_readValue hread with ⟨-, hfree⟩ | hjson
  · exact hfree
  · exact Node.nanFree_of_ofJsonText hjson

section

variable {texts : List String} {parameters : List (String × Node)}

/-- Each parameter is read from one of the texts. -/
theorem forall_mem_of_readParameters {P : String × Node → Prop}
    (h : readParameters texts = .ok parameters)
    (hP : ∀ {text p}, readParameter text = .ok p → P p) : ∀ p ∈ parameters, P p := by
  have hpairs := mapM_eq_ok_iff.mp h
  induction hpairs with
  | nil => exact List.forall_mem_nil P
  | cons hfirst hrest ih =>
    exact List.forall_mem_cons.mpr ⟨hP hfirst, ih (mapM_eq_ok_iff.mpr hrest)⟩

/-- The names of the parameters are those that the texts give. -/
theorem names_of_readParameters (h : readParameters texts = .ok parameters) :
    Fields.names parameters = texts.map givenName := by
  -- text by text, since each parameter was read from the text in its place
  have hpairs := mapM_eq_ok_iff.mp h
  induction hpairs with
  | nil => rfl
  | @cons text p texts parameters hfirst hrest ih =>
    have hname : p.1 = givenName text := (exists_of_readParameter hfirst).1
    have hnames : Fields.names parameters = texts.map givenName := ih (mapM_eq_ok_iff.mpr hrest)
    rw [List.map_cons, ← hname, ← hnames]
    rfl

end

end ManagementModel.CommandLine
