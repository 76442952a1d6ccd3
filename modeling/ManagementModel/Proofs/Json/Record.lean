import ManagementModel.Json.Record
import Mathlib.Data.List.Forall2

/-!
# ManagementModel — one document, two records

A document is read member by member, and what a record has become on the way has no influence on
what is read next. So the same document can be read into records of another kind: if a map takes
each step of one reading to that of the other, then it takes the record that is read in the end to
the other one, and both readings fail alike.

Main results:

* `map_fieldItems`, `map_fieldMembers` — the fields of a list and of an object.
* `run_record_map` — a whole document.
-/

namespace ManagementModel.Json.Reader

variable {σ τ : Type} (g : σ → τ)

/-- Two fields of one name whose values are read into records that a map takes to each other. -/
structure Field.Follows (a : Field σ) (b : Field τ) : Prop where
  name : a.name = b.name
  read : ∀ fuel x, g <$> a.read fuel x = b.read fuel (g x)

variable {g} {as : List (Field σ)} {bs : List (Field τ)}

/-! ## Readers that do not look at the record -/

@[simp] theorem map_apply (read : Reader σ) (s : List Char) :
    (g <$> read) s = (read s).map fun p => (g p.1, p.2) := by
  show (read s).bind (fun p => .ok (g p.1, p.2)) = _
  cases read s with
  | error fault => rfl
  | ok p => rfl

/-- A repeated field is refused whatever the record is. -/
theorem map_repeatedField (name : String) :
    g <$> (repeatedField name : Reader σ) = repeatedField name := by
  funext s
  rw [map_apply]
  unfold repeatedField
  split <;> rfl

/-- A value of another kind is refused whatever the record is. -/
theorem map_unexpected (fuel : Nat) (expected : String) (c : Char) (rest : List Char) :
    (unexpected fuel expected c rest).map (fun p : σ × List Char => (g p.1, p.2)) =
      unexpected fuel expected c rest := by
  unfold unexpected
  split_ifs
  · rfl
  · rfl
  · cases scalar fuel c rest with
    | error fault => rfl
    | ok p => rfl

/-! ## Fields -/

/-- The fields of a list are read into both records alike. -/
theorem map_fieldItems (h : List.Forall₂ (Field.Follows g) as bs) (fuel : Nat) (isFirst : Bool)
    (x : σ) : g <$> fieldItems fuel isFirst x as = fieldItems fuel isFirst (g x) bs := by
  induction h generalizing isFirst x with
  | nil => simp only [fieldItems, map_bind, map_pure]
  | cons hfield _ ih =>
    simp only [fieldItems, map_bind]
    refine bind_congr fun more => ?_
    cases more with
    -- the list ends early, and the fields that are left keep their values
    | false => exact map_pure g x
    | true =>
      -- the fields follow each other, and so do the records they make
      simp only [if_true, map_bind, ← hfield.read, bind_map_left]
      exact bind_congr fun y => ih false y

/-- A name is that of fields that follow each other, or of none. -/
theorem find?_follows (h : List.Forall₂ (Field.Follows g) as bs) (name : String) :
    Option.Rel (Field.Follows g) (as.find? (·.name == name)) (bs.find? (·.name == name)) := by
  induction h with
  | nil => exact .none
  | @cons a b _ _ hfield _ ih =>
    rw [List.find?_cons, List.find?_cons, hfield.name]
    cases b.name == name with
    | true => exact .some hfield
    | false => exact ih

/-- The fields of an object are read into both records alike. -/
theorem map_fieldMembers (h : List.Forall₂ (Field.Follows g) as bs) (bound : Nat)
    (seen : List String) (isFirst : Bool) (x : σ) (fuel : Nat) :
    g <$> fieldMembers as bound seen isFirst x fuel =
      fieldMembers bs bound seen isFirst (g x) fuel := by
  induction fuel generalizing seen isFirst x with
  | zero => rfl
  | succ fuel ih =>
    simp only [fieldMembers, map_bind]
    refine bind_congr fun more => ?_
    cases more with
    | false => exact map_pure g x
    | true =>
      simp only [if_true, map_bind]
      refine bind_congr fun name => ?_
      have hfind := find?_follows h name
      generalize as.find? (·.name == name) = a, bs.find? (·.name == name) = b at hfind ⊢
      cases hfind with
      | none =>
        -- a member that is no field changes nothing
        simp only [map_bind]
        exact bind_congr fun _ => bind_congr fun _ => ih seen false x
      | some hfield =>
        by_cases hseen : seen.contains name = true
        · simp only [if_pos hseen]
          -- a field that comes again is refused for both
          exact map_repeatedField name
        · simp only [if_neg hseen, map_bind, ← hfield.read, bind_map_left]
          exact bind_congr fun _ => bind_congr fun y => ih (name :: seen) false y

/-! ## Documents -/

/-- A record is read from a list or from an object, into both records alike. -/
theorem map_record (h : List.Forall₂ (Field.Follows g) as bs) (expected : String) (x : σ)
    (fuel : Nat) : g <$> record expected as x fuel = record expected bs (g x) fuel := by
  funext s
  rw [map_apply]
  unfold record
  split
  · rfl
  · split_ifs
    · rw [← map_apply, map_fieldItems h]
    · rw [← map_apply, map_fieldMembers h]
    · exact map_unexpected ..

/-- What is read from a whole text is passed through a function. -/
theorem run_map (read : Nat → Reader σ) (text : String) :
    run (fun fuel => g <$> read fuel) text = (run read text).map g := by
  -- what follows the document is read the same
  have hwhole : ∀ fuel, (do let v ← g <$> read fuel; endOfText; return v) =
      g <$> (do let v ← read fuel; endOfText; return v) := by
    intro fuel
    simp only [map_bind, map_pure, bind_map_left]
  unfold run
  simp only [hwhole, map_apply]
  cases (do let v ← read (text.toList.length + 1); endOfText; return v : Reader σ) text.toList with
  | error fault => rfl
  | ok p => rfl

/-- A document is read into both records, or refused for both with the same error. -/
theorem run_record_map (h : List.Forall₂ (Field.Follows g) as bs) (expected : String) (x : σ)
    (text : String) :
    run (record expected bs (g x)) text = (run (record expected as x) text).map g := by
  rw [← run_map]
  simp only [map_record h]

end ManagementModel.Json.Reader
