import ManagementModel.Json.Reader
import ManagementModel.Proofs.Fields
import ManagementModel.Proofs.Json.Induction

/-!
# ManagementModel — names in documents that are read

A text may repeat the name of a member, but the document that is read from it does not: the reader
writes each member into the ones before it, and a name that comes again only replaces a value. So
whatever is read is well-formed, at any depth.

What a reader yields is followed through the readers of items and members round by round, and
through the levels of containers by induction on the number that may still be opened.

Main result:

* `wellFormed_of_parse` — no object of a document that was read has a name twice.
-/

namespace ManagementModel.Json

/-- Every object of the document has distinct names. -/
inductive WellFormed : Json → Prop
  | scalar {v : Json} (h : v.isScalar = true) : WellFormed v
  | array {items : List Json} (h : ∀ item ∈ items, item.WellFormed) : WellFormed (array items)
  | object {members : Fields Json} (hd : members.Distinct) (h : ∀ p ∈ members, p.2.WellFormed) :
    WellFormed (object members)

namespace Reader

variable {α β : Type} {P : α → Prop} {Q : β → Prop}

/-- Whatever the reader takes from a text has a property. -/
def Yields (P : α → Prop) (read : Reader α) : Prop :=
  ∀ s a rest, read s = .ok (a, rest) → P a

/-! ## Readers put together -/

/-- Nothing is asked of what is read. -/
theorem yields_true (read : Reader α) : Yields (fun _ => True) read :=
  fun _ _ _ _ => trivial

theorem Yields.pure {a : α} (h : P a) : Yields P (pure a : Reader α) := by
  intro s a' rest hread
  cases hread
  exact h

/-- One reader after the other yields what the second one does, given what the first one does. -/
theorem Yields.bind {read : Reader α} {next : α → Reader β} (h : Yields P read)
    (hnext : ∀ a, P a → Yields Q (next a)) : Yields Q (read >>= next) := by
  intro s b rest hread
  change StateT.bind read next s = _ at hread
  unfold StateT.bind at hread
  cases hr : read s with
  | error fault => rw [hr] at hread; cases hread
  | ok r =>
    rw [hr] at hread
    -- the first reader has succeeded, so the second one goes on with its value
    exact hnext r.1 (h s r.1 r.2 hr) r.2 b rest hread

/-- What is read is passed through a function. -/
theorem Yields.map {read : Reader α} {f : α → β} (h : Yields P read) (hf : ∀ a, P a → Q (f a)) :
    Yields Q (f <$> read) := by
  intro s b rest hread
  change StateT.map f read s = _ at hread
  unfold StateT.map at hread
  cases hr : read s with
  | error fault => rw [hr] at hread; cases hread
  | ok r =>
    rw [hr] at hread
    cases hread
    exact hf _ (h s _ _ hr)

/-! ## Values without parts -/

/-- A literal yields its value and no other. -/
theorem yields_literal (value : α) (expected : List Char) :
    Yields (· = value) (literal value expected) := by
  induction expected with
  | nil =>
    intro s a rest hread
    cases hread
    rfl
  | cons e expected ih =>
    intro s a rest hread
    unfold literal at hread
    split at hread
    · cases hread
    · split at hread
      · exact ih _ _ _ hread
      · cases hread

/-- What the reader of values without parts reads has no parts. -/
theorem isScalar_of_scalar {fuel : Nat} {c : Char} {s rest : List Char} {v : Json}
    (h : scalar fuel c s = .ok (v, rest)) : v.isScalar = true := by
  have hliteral : ∀ {value : Json} {expected : List Char}, value.isScalar = true →
      literal value expected s = .ok (v, rest) → v.isScalar = true := by
    intro value expected hvalue hread
    rw [yields_literal value expected s v rest hread]
    exact hvalue
  have hmap : ∀ {γ : Type} {make : γ → Json} {read : Reader γ} {s : List Char},
      (∀ x, (make x).isScalar = true) → (make <$> read) s = .ok (v, rest) →
      v.isScalar = true := by
    intro γ make read s hmake hread
    have hmade : Yields (fun v => v.isScalar = true) (make <$> read) :=
      (yields_true read).map fun x _ => hmake x
    exact hmade s v rest hread
  unfold scalar at h
  -- the character that a value begins with tells its kind
  split at h
  · exact hliteral rfl h
  · split at h
    · exact hliteral rfl h
    · split at h
      · exact hliteral rfl h
      · split at h
        · exact hmap (fun _ => rfl) h
        · split at h
          · exact hmap (fun _ => rfl) h
          · split at h
            · exact hmap (fun _ => rfl) h
            · cases h

/-! ## Containers -/

section

variable {item : Reader α} (hitem : Yields P item)

include hitem

/-- The items of a list are what the reader of one item yields. -/
theorem yields_items (isFirst : Bool) {acc : List α} (hacc : ∀ a ∈ acc, P a) (fuel : Nat) :
    Yields (fun xs => ∀ a ∈ xs, P a) (items item isFirst acc fuel) := by
  induction fuel generalizing isFirst acc with
  | zero =>
    intro s xs rest hread
    cases hread
  | succ fuel ih =>
    intro s xs rest hread
    unfold items at hread
    split at hread
    · cases hread
    · cases hread
      -- the list has ended; its items were collected in reverse
      exact fun a ha => hacc a (List.mem_reverse.mp ha)
    · split at hread
      · next hv => exact ih false (List.forall_mem_cons.mpr ⟨hitem _ _ _ hv, hacc⟩) _ _ _ hread
      · cases hread

/-- The value of a member is what the reader of one value yields. -/
theorem yields_memberBody (fuel : Nat) : Yields (fun p => P p.2) (memberBody item fuel) := by
  refine (yields_true _).bind fun name _ => (yields_true _).bind fun _ _ => ?_
  exact hitem.bind fun v hv => .pure hv

/-- Members are written one by one, so their names stay distinct. -/
theorem yields_members (isFirst : Bool) {acc : Fields α} (hd : acc.Distinct)
    (hacc : ∀ p ∈ acc, P p.2) (bound fuel : Nat) :
    Yields (fun fields => fields.Distinct ∧ ∀ p ∈ fields, P p.2)
      (members item bound isFirst acc fuel) := by
  induction fuel generalizing isFirst acc with
  | zero =>
    intro s fields rest hread
    cases hread
  | succ fuel ih =>
    intro s fields rest hread
    unfold members at hread
    split at hread
    · cases hread
    · cases hread
      -- the object has ended
      exact ⟨hd, hacc⟩
    · split at hread
      · next name v rest' hbody =>
        -- the member is written into those before it, whatever its name is
        refine ih false (Fields.nodup_names_insert name v hd) ?_ _ _ _ hread
        intro p hp
        rcases Fields.mem_insert hp with rfl | hp
        · exact yields_memberBody hitem bound _ _ _ hbody
        · exact hacc p hp
      · cases hread

end

/-- Whatever is read as a value is well formed. -/
theorem yields_value (fuel levels : Nat) : Yields WellFormed (value fuel levels) := by
  induction levels with
  | zero =>
    intro s v rest hread
    unfold value at hread
    split at hread
    · cases hread
    · split at hread
      · cases hread
      · exact .scalar (isScalar_of_scalar hread)
  | succ levels ih =>
    intro s v rest hread
    unfold value at hread
    split at hread
    · cases hread
    · split at hread
      · -- a list, from its first item on
        have hitems := yields_items ih true (List.forall_mem_nil _) fuel
        exact hitems.map (fun _ h => .array h) _ _ _ hread
      · split at hread
        · -- an object, from its first member on
          have hempty : Fields.Distinct ([] : Fields Json) := List.nodup_nil
          have hmembers := yields_members ih true hempty (List.forall_mem_nil _) fuel fuel
          exact hmembers.map (fun _ h => .object h.1 h.2) _ _ _ hread
        · exact .scalar (isScalar_of_scalar hread)

end Reader

/-- No object of a document that was read has a name twice. -/
theorem wellFormed_of_parse {text : String} {v : Json} (h : parse text = .ok v) : v.WellFormed := by
  have hwhole : Reader.Yields WellFormed (do
      let v ← Reader.value (text.toList.length + 1) maxNesting
      Reader.endOfText
      return v) :=
    (Reader.yields_value _ _).bind fun v hv => (Reader.yields_true _).bind fun _ _ => .pure hv
  -- what stands behind the document does not touch it any more
  unfold parse Reader.run at h
  simp only at h
  split at h
  · next hread =>
    cases h
    exact hwhole _ _ _ hread
  · cases h

end ManagementModel.Json
