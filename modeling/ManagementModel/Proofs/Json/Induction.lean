import ManagementModel.Json.Value
import Mathlib.Data.List.Basic

/-!
# ManagementModel — induction on documents

As for trees, the parts of an array or an object come with the hypothesis for each of them.

Main result:

* `induct` — a property of all values without parts that passes from the parts of a container to the
  container holds of every document.
-/

namespace ManagementModel.Json

/-- Values without parts. -/
def isScalar : Json → Bool
  | array _ => false
  | object _ => false
  | _ => true

/-- Induction on a document. -/
@[elab_as_elim]
theorem induct {P : Json → Prop} (scalar : ∀ v : Json, v.isScalar = true → P v)
    (array : ∀ items, (∀ item ∈ items, P item) → P (array items))
    (object : ∀ members, (∀ p ∈ members, P p.2) → P (object members)) (v : Json) : P v := by
  refine @Json.rec P (fun items => ∀ item ∈ items, P item) (fun members => ∀ p ∈ members, P p.2)
    (fun p => P p.2) ?_ ?_ ?_ ?_ array object ?_ ?_ ?_ ?_ ?_ v
  -- the values without parts
  · exact scalar _ rfl
  · exact fun _ => scalar _ rfl
  · exact fun _ => scalar _ rfl
  · exact fun _ => scalar _ rfl
  -- the lists of parts
  · exact fun _ h => nomatch h
  · exact fun _ _ hp hps => List.forall_mem_cons.mpr ⟨hp, hps⟩
  · exact fun _ h => nomatch h
  · exact fun _ _ hp hps => List.forall_mem_cons.mpr ⟨hp, hps⟩
  · exact fun _ _ hp => hp

end ManagementModel.Json
