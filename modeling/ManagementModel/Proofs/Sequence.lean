import Mathlib.Data.List.Forall2

/-!
# ManagementModel — one after another

The segments of a template and the parameters of a command are read one after another, and the first
one that is refused ends the reading: it alone decides on the error, whatever comes behind it. If
none is refused, the results are as many as the elements and stand in the same order.

Main results:

* `bind_eq_ok_iff`, `bind_eq_error_iff` — what comes of one step after another.
* `mapM_eq_ok_iff`, `exists_mapM_eq_ok_iff` — nothing is refused.
* `mapM_eq_error_iff` — the first that is refused.
* `exists_of_mapM_append` — what some of the elements have for results.
-/

namespace ManagementModel

variable {α β ε : Type} {f : α → Except ε β} {xs : List α} {e : ε}

/-! ## Steps -/

section

variable {γ ε' : Type} {x : Except ε α} {a d : α} {b : β} {c : γ} {e' : ε'} {g : α → γ} {k : ε → ε'}

/-- Two steps succeed if the first does and the second does with what the first gives. -/
@[simp] theorem bind_eq_ok_iff : x >>= f = .ok b ↔ ∃ a, x = .ok a ∧ f a = .ok b := by
  cases x with
  | error e => exact iff_of_false nofun nofun
  | ok a =>
    constructor
    · exact fun h => ⟨a, rfl, h⟩
    · rintro ⟨_, ⟨⟩, h⟩
      exact h

/-- The error of the first step comes before that of the second. -/
@[simp] theorem bind_eq_error_iff :
    x >>= f = .error e ↔ x = .error e ∨ ∃ a, x = .ok a ∧ f a = .error e := by
  cases x with
  | error e' =>
    constructor
    · rintro ⟨⟩
      exact .inl rfl
    · rintro (⟨⟨⟩⟩ | ⟨_, ⟨⟩, _⟩)
      rfl
  | ok a =>
    constructor
    · exact fun h => .inr ⟨a, rfl, h⟩
    · rintro (⟨⟨⟩⟩ | ⟨_, ⟨⟩, h⟩)
      exact h

@[simp] theorem pure_eq_ok_iff : (pure a : Except ε α) = .ok d ↔ d = a := by
  constructor <;> rintro ⟨⟩ <;> rfl

/-- A changed result is the result of the step, changed. -/
@[simp] theorem map_eq_ok_iff : x.map g = .ok c ↔ ∃ a, x = .ok a ∧ g a = c := by
  cases x with
  | error e => exact iff_of_false nofun nofun
  | ok a =>
    constructor
    · rintro ⟨⟩
      exact ⟨a, rfl, rfl⟩
    · rintro ⟨_, ⟨⟩, rfl⟩
      rfl

@[simp] theorem fmap_eq_ok_iff : g <$> x = .ok c ↔ ∃ a, x = .ok a ∧ g a = c :=
  map_eq_ok_iff

/-- Changing a result does not touch an error. -/
@[simp] theorem map_eq_error_iff : x.map g = .error e ↔ x = .error e := by
  cases x with
  | error e' =>
    constructor <;> rintro ⟨⟩ <;> rfl
  | ok a => exact iff_of_false nofun nofun

@[simp] theorem fmap_eq_error_iff : g <$> x = .error e ↔ x = .error e :=
  map_eq_error_iff

/-- Changing the error does not touch a success. -/
@[simp] theorem mapError_eq_ok_iff : x.mapError k = .ok a ↔ x = .ok a := by
  cases x with
  | error e => exact iff_of_false nofun nofun
  | ok a' =>
    constructor <;> rintro ⟨⟩ <;> rfl

/-- A changed error is the error of the step, changed. -/
@[simp]
theorem mapError_eq_error_iff : x.mapError k = .error e' ↔ ∃ e, x = .error e ∧ e' = k e := by
  cases x with
  | error e =>
    constructor
    · rintro ⟨⟩
      exact ⟨e, rfl, rfl⟩
    · rintro ⟨_, ⟨⟩, rfl⟩
      rfl
  | ok a => exact iff_of_false nofun nofun

end

/-! ## Lists -/

/-- The first element that a step refuses, and why; the step accepts what stands in front of it. -/
def FirstRefused (f : α → Except ε β) (xs : List α) (x : α) (e : ε) : Prop :=
  ∃ before after, xs = before ++ x :: after ∧ (∀ y ∈ before, ∃ z, f y = .ok z) ∧ f x = .error e

/-- Going through a list succeeds if each step does. -/
theorem mapM_eq_ok_iff {ys : List β} :
    xs.mapM f = .ok ys ↔ List.Forall₂ (fun x y => f x = .ok y) xs ys := by
  induction xs generalizing ys with
  | nil =>
    rw [List.mapM_nil, List.forall₂_nil_left_iff]
    exact ⟨fun h => (Except.ok.inj h).symm, fun h => congrArg Except.ok h.symm⟩
  | cons x xs ih =>
    rw [List.mapM_cons, List.forall₂_cons_left_iff]
    constructor
    · intro h
      -- the element gives its result, and then the rest does
      obtain ⟨y, hx, h⟩ := bind_eq_ok_iff.mp h
      obtain ⟨rest, hxs, h⟩ := bind_eq_ok_iff.mp h
      exact ⟨y, rest, hx, ih.mp hxs, (Except.ok.inj h).symm⟩
    · rintro ⟨y, rest, hx, hxs, rfl⟩
      rw [hx, ih.mpr hxs]
      rfl

/-- Behind an element that is accepted the others decide. -/
theorem mapM_cons_of_ok {x : α} {y : β} (hx : f x = .ok y) :
    (x :: xs).mapM f = (xs.mapM f).map (y :: ·) := by
  rw [List.mapM_cons, hx]
  cases xs.mapM f <;> rfl

/-- The results of a list are that of its first element and those of the others. -/
theorem exists_of_mapM_cons {x : α} {ys : List β} (h : (x :: xs).mapM f = .ok ys) :
    ∃ y rest, f x = .ok y ∧ xs.mapM f = .ok rest ∧ ys = y :: rest := by
  obtain ⟨y, rest, hx, hxs, hys⟩ := List.forall₂_cons_left_iff.mp (mapM_eq_ok_iff.mp h)
  exact ⟨y, rest, hx, mapM_eq_ok_iff.mpr hxs, hys⟩

/-- The results of two lists in a row are the results of each, one behind the other. -/
theorem exists_of_mapM_append {before : List α} {ys : List β} (h : (before ++ xs).mapM f = .ok ys) :
    ∃ front back, before.mapM f = .ok front ∧ xs.mapM f = .ok back ∧ ys = front ++ back := by
  rw [List.mapM_append] at h
  obtain ⟨front, hfront, h⟩ := bind_eq_ok_iff.mp h
  obtain ⟨back, hback, h⟩ := bind_eq_ok_iff.mp h
  exact ⟨front, back, hfront, hback, (Except.ok.inj h).symm⟩

/-- Elements that are accepted in front leave the error as it is. -/
theorem mapM_append_of_ok {before : List α} {ys : List β} (h : before.mapM f = .ok ys) :
    (before ++ xs).mapM f = (xs.mapM f).map (ys ++ ·) := by
  rw [List.mapM_append, h]
  cases xs.mapM f <;> rfl

/-- An element may be left out if its result does not show. -/
theorem map_mapM_remove {γ : Type} {g : List β → γ} {x : α} {y : β} (hx : f x = .ok y)
    (hg : ∀ front back, g (front ++ y :: back) = g (front ++ back)) (before after : List α) :
    ((before ++ x :: after).mapM f).map g = ((before ++ after).mapM f).map g := by
  rw [List.mapM_append, List.mapM_append, mapM_cons_of_ok hx]
  -- an error in front or behind is the same with and without the element
  cases before.mapM f with
  | error e => rfl
  | ok front =>
    cases after.mapM f with
    | error e => rfl
    | ok back => exact congrArg Except.ok (hg front back)

/-- Going through a list succeeds exactly if no element is refused. -/
theorem exists_mapM_eq_ok_iff : (∃ ys, xs.mapM f = .ok ys) ↔ ∀ x ∈ xs, ∃ y, f x = .ok y := by
  induction xs with
  | nil => exact iff_of_true ⟨[], rfl⟩ nofun
  | cons x xs ih =>
    rw [List.forall_mem_cons, ← ih]
    constructor
    · rintro ⟨ys, h⟩
      obtain ⟨y, rest, hx, hxs, -⟩ := exists_of_mapM_cons h
      exact ⟨⟨y, hx⟩, rest, hxs⟩
    · rintro ⟨⟨y, hx⟩, rest, hxs⟩
      exact ⟨y :: rest, by rw [mapM_cons_of_ok hx, hxs]; rfl⟩

/-- Going through a list fails for the first element that is refused. -/
theorem mapM_eq_error_iff : xs.mapM f = .error e ↔ ∃ x, FirstRefused f xs x e := by
  constructor
  · intro h
    induction xs with
    | nil => cases h
    | cons x xs ih =>
      rw [List.mapM_cons] at h
      rcases bind_eq_error_iff.mp h with hx | ⟨y, hx, h⟩
      · -- the first element is refused
        exact ⟨x, [], xs, rfl, nofun, hx⟩
      · rcases bind_eq_error_iff.mp h with hxs | ⟨_, -, ⟨⟩⟩
        -- the error comes from further on
        obtain ⟨bad, before, after, rfl, hbefore, hbad⟩ := ih hxs
        exact ⟨bad, x :: before, after, rfl, List.forall_mem_cons.mpr ⟨⟨y, hx⟩, hbefore⟩, hbad⟩
  · rintro ⟨x, before, after, rfl, hbefore, hx⟩
    -- what stands in front of it is accepted, and what follows is not looked at
    obtain ⟨ys, hys⟩ := exists_mapM_eq_ok_iff.mpr hbefore
    rw [mapM_append_of_ok hys, List.mapM_cons, hx]
    rfl

end ManagementModel
