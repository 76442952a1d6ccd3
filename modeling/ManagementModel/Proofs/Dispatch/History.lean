import ManagementModel.Session
import Mathlib.Data.List.Induction
import Mathlib.Data.List.Nodup
import Mathlib.Data.List.ReduceOption

/-!
# ManagementModel — what a sequence of events amounts to

The events of a run tell by themselves which calls there are, which of them wait for an answer, and
which handlers are installed. This module reads that off a list of events, without the state that a
dispatcher keeps: a call is in flight from its start to the first answer to it that comes behind
its start, and a handler is installed until the next one of its kind.

An `Ending` is an answer to a call in flight, together with everything that had happened before.
The endings of a list of events are in the order in which the answers arrive.

Main results:

* `inFlight?_start`, `inFlight?_answer`, `inFlight?_other` — what one more event does to the calls
  in flight.
* `mem_endings_iff` — the endings are the answers to calls in flight.
* `nodup_number_endings` — no call ends twice.
* `number_mem_endings_iff` — a call ends if it is answered behind its start.
-/

namespace ManagementModel.Dispatcher

variable {η : Type}

/-! ## Reading events -/

namespace Event

/-- The call that starts. -/
def call? : Event η → Option Call
  | .start call => some call
  | _ => none

/-- The handler for failures that is installed. -/
def failedHandler? : Event η → Option η
  | .setFailed handler => some handler
  | _ => none

/-- The handler for errors that is installed. -/
def exceptionHandler? : Event η → Option η
  | .setException handler => some handler
  | _ => none

/-- The transport answers the call of a number. -/
def answers (number : Nat) : Event η → Bool
  | .answer n _ => n == number
  | _ => false

def isSubscription : Event η → Bool
  | .subscribe => true
  | _ => false

end Event

/-- The calls that start; the number of a call is its place. -/
def started (events : List (Event η)) : List Call :=
  events.filterMap Event.call?

/-- The handlers that were installed last. -/
def installed (events : List (Event η)) : Handlers η :=
  ⟨(events.filterMap Event.failedHandler?).getLast?,
    (events.filterMap Event.exceptionHandler?).getLast?⟩

/-- A receiver has subscribed. -/
def subscribed (events : List (Event η)) : Bool :=
  events.any Event.isSubscription

/-- The events behind the start of the call of a number. -/
def sinceStart : Nat → List (Event η) → List (Event η)
  | _, [] => []
  | 0, .start _ :: rest => rest
  | number + 1, .start _ :: rest => sinceStart number rest
  | number, _ :: rest => sinceStart number rest

/-- The call of a number was answered behind its start. -/
def answered (events : List (Event η)) (number : Nat) : Bool :=
  (sinceStart number events).any (Event.answers number)

/-- The call of a number, if it has started and not been answered. -/
def inFlight? (events : List (Event η)) (number : Nat) : Option Call :=
  if answered events number then none else (started events)[number]?

/-- An answer that ends a call, and what had happened before it. -/
structure Ending (η : Type) where
  before : List (Event η)
  number : Nat
  call : Call
  answer : Answer

/-- The ending that an event is, if it answers a call in flight. -/
def ending? (before : List (Event η)) : Event η → Option (Ending η)
  | .answer number answer =>
    (inFlight? before number).map fun call => ⟨before, number, call, answer⟩
  | _ => none

/-- The endings of calls, in the order of the answers. -/
def endings (events : List (Event η)) : List (Ending η) :=
  (events.mapIdx fun i event => ending? (events.take i) event).reduceOption

/-! ## One more event -/

variable {events : List (Event η)} {event : Event η} {number : Nat}

@[simp] theorem started_concat (events : List (Event η)) (event : Event η) :
    started (events ++ [event]) = started events ++ event.call?.toList := by
  rw [started, List.filterMap_append]
  cases h : event.call? <;> simp [started, h]

@[simp] theorem installed_concat (events : List (Event η)) (event : Event η) :
    installed (events ++ [event]) =
      ⟨event.failedHandler?.or (installed events).failed,
        event.exceptionHandler?.or (installed events).exception⟩ := by
  simp only [installed, List.filterMap_append]
  cases hf : event.failedHandler? <;> cases he : event.exceptionHandler? <;> simp [hf, he]

/-- Before a call has started, nothing is behind its start. -/
theorem sinceStart_eq_nil (h : (started events).length ≤ number) :
    sinceStart number events = [] := by
  induction events generalizing number with
  | nil => rw [sinceStart]
  | cons event rest ih =>
    cases event with
    | start call =>
      -- the call that starts is one of a smaller number
      cases number with
      | zero => exact absurd h (Nat.not_succ_le_zero _)
      | succ number => exact ih (Nat.le_of_succ_le_succ h)
    | _ =>
      have hrest : (started rest).length ≤ number := h
      simpa only [sinceStart] using ih hrest

/-- A call that starts with the last event has nothing behind its start yet. -/
theorem sinceStart_concat (number : Nat) (events : List (Event η)) (event : Event η) :
    sinceStart number (events ++ [event]) =
      if number < (started events).length then sinceStart number events ++ [event] else [] := by
  induction events generalizing number with
  | nil =>
    have hnone : ¬ number < (started ([] : List (Event η))).length := Nat.not_lt_zero _
    rw [if_neg hnone]
    cases event <;> cases number <;> rfl
  | cons first rest ih =>
    cases first with
    | start call =>
      cases number with
      | zero => rfl
      | succ number =>
        -- the first start is that of the call zero, and the others are one less
        have hlt : number + 1 < (started (.start call :: rest)).length ↔
            number < (started rest).length := Nat.succ_lt_succ_iff
        simp only [List.cons_append, sinceStart, ih, hlt]
    | _ =>
      simp only [List.cons_append, sinceStart, ih]
      rfl

/-- An answer counts only behind the start of its call. -/
@[simp] theorem answered_concat (events : List (Event η)) (event : Event η) (number : Nat) :
    answered (events ++ [event]) number =
      (answered events number ||
        (decide (number < (started events).length) && event.answers number)) := by
  rw [answered, answered, sinceStart_concat]
  by_cases h : number < (started events).length
  · simp [h]
  · have hnil : sinceStart number events = [] := sinceStart_eq_nil (Nat.le_of_not_lt h)
    simp [h, hnil]

/-! ## Calls in flight -/

theorem inFlight?_eq_none_iff :
    inFlight? events number = none ↔
      answered events number = true ∨ (started events).length ≤ number := by
  rw [inFlight?]
  cases answered events number <;> simp

theorem inFlight?_eq_some_iff {call : Call} :
    inFlight? events number = some call ↔
      answered events number = false ∧ (started events)[number]? = some call := by
  rw [inFlight?]
  cases answered events number <;> simp

/-- A call that starts takes the next number. -/
theorem inFlight?_start (events : List (Event η)) (call : Call) (number : Nat) :
    inFlight? (events ++ [.start call]) number =
      if number = (started events).length then some call else inFlight? events number := by
  -- a start answers nothing
  have hanswered : answered (events ++ [.start call]) number = answered events number := by
    simp [Event.answers]
  rw [inFlight?, hanswered, started_concat]
  by_cases h : number = (started events).length
  · -- nothing was answered behind a start that had not come
    subst h
    have hnot : answered events (started events).length = false := by
      rw [answered, sinceStart_eq_nil (Nat.le_refl _)]
      rfl
    simp [hnot, Event.call?]
  · -- the calls before keep their numbers
    have hget : (started events ++ (Event.start call : Event η).call?.toList)[number]? =
        (started events)[number]? := by
      rw [Event.call?, Option.toList_some]
      rcases Nat.lt_or_gt_of_ne h with hlt | hgt
      · exact List.getElem?_append_left hlt
      · have hlen : (started events ++ [call]).length ≤ number := by
          rw [List.length_append]
          exact hgt
        rw [List.getElem?_eq_none hlen, List.getElem?_eq_none (Nat.le_of_lt hgt)]
    rw [if_neg h, hget, inFlight?]

/-- An answer ends the call of its number, if it is in flight. -/
theorem inFlight?_answer (events : List (Event η)) (n : Nat) (answer : Answer) (number : Nat) :
    inFlight? (events ++ [.answer n answer]) number =
      if number = n then none else inFlight? events number := by
  have hstarted : started (events ++ [.answer n answer]) = started events := by
    simp [Event.call?]
  by_cases h : number = n
  · subst h
    rw [if_pos rfl]
    by_cases hlt : number < (started events).length
    · have hanswered : answered (events ++ [.answer number answer]) number = true := by
        simp [hlt, Event.answers]
      rw [inFlight?, if_pos hanswered]
    · -- the call has not started, so it is not in flight anyway
      have hle : (started events).length ≤ number := Nat.le_of_not_lt hlt
      exact inFlight?_eq_none_iff.mpr (.inr (hstarted.symm ▸ hle))
  · have hanswered : answered (events ++ [.answer n answer]) number = answered events number := by
      -- the answer is to another call
      have hne : (n == number) = false := beq_eq_false_iff_ne.mpr (Ne.symm h)
      simp [Event.answers, hne]
    rw [if_neg h, inFlight?, inFlight?, hanswered, hstarted]

/-- Other events leave the calls in flight as they are. -/
theorem inFlight?_other (events : List (Event η)) (hcall : event.call? = none)
    (hanswers : event.answers number = false) :
    inFlight? (events ++ [event]) number = inFlight? events number := by
  simp [inFlight?, hcall, hanswers]

/-! ## Endings -/

/-- One more event adds the ending that it is. -/
@[simp] theorem endings_concat (events : List (Event η)) (event : Event η) :
    endings (events ++ [event]) = endings events ++ (ending? events event).toList := by
  -- what is before an earlier event does not reach the last one
  have hbefore : (events.mapIdx fun i e => ending? ((events ++ [event]).take i) e) =
      events.mapIdx fun i e => ending? (events.take i) e := by
    apply List.ext_getElem
    · simp
    · intro i h₁ h₂
      have hi : i ≤ events.length := Nat.le_of_lt (by simpa using h₁)
      rw [List.getElem_mapIdx, List.getElem_mapIdx, List.take_append_of_le_length hi]
  have htake : (events ++ [event]).take events.length = events := List.take_left
  rw [endings, List.mapIdx_concat, hbefore, htake, List.reduceOption_append,
    List.reduceOption_singleton, endings]

/-- An event is an ending exactly if it answers a call in flight. -/
theorem ending?_eq_some_iff {e : Ending η} :
    ending? events event = some e ↔
      e.before = events ∧ event = .answer e.number e.answer ∧
        inFlight? events e.number = some e.call := by
  obtain ⟨before, number, call, answer⟩ := e
  cases event with
  | answer n a =>
    rw [ending?, Option.map_eq_some_iff]
    constructor
    · rintro ⟨c, hc, heq⟩
      obtain ⟨rfl, rfl, rfl, rfl⟩ := Ending.mk.inj heq
      exact ⟨rfl, rfl, hc⟩
    · rintro ⟨rfl, heq, hc⟩
      obtain ⟨rfl, rfl⟩ := Event.answer.inj heq
      exact ⟨call, hc, rfl⟩
  | _ => simp [ending?]

/-- The endings are the answers that meet their call in flight. -/
theorem mem_endings_iff {e : Ending η} :
    e ∈ endings events ↔
      inFlight? e.before e.number = some e.call ∧
        ∃ after, events = e.before ++ .answer e.number e.answer :: after := by
  rw [endings, List.reduceOption_mem_iff, List.mem_mapIdx]
  constructor
  · rintro ⟨i, hi, h⟩
    -- the ending stands at the place of its answer
    obtain ⟨hbefore, hevent, hcall⟩ := ending?_eq_some_iff.mp h
    refine ⟨hbefore ▸ hcall, events.drop (i + 1), ?_⟩
    rw [hbefore, ← hevent, ← List.drop_eq_getElem_cons hi, List.take_append_drop]
  · rintro ⟨hcall, after, rfl⟩
    have hi : e.before.length < (e.before ++ .answer e.number e.answer :: after).length := by
      simp
    refine ⟨e.before.length, hi, ?_⟩
    rw [ending?_eq_some_iff]
    simp [hcall]

/-- A call has ended if it was answered behind its start. -/
theorem number_mem_endings_iff (events : List (Event η)) (number : Nat) :
    number ∈ (endings events).map (·.number) ↔ answered events number = true := by
  induction events using List.reverseRecOn with
  | nil => simp [endings, answered, sinceStart]
  | append_singleton events event ih =>
    rw [endings_concat, List.map_append, List.mem_append, ih, answered_concat]
    cases event with
    | answer n answer =>
      cases h : inFlight? events n with
      | none =>
        -- the call has been answered before, or has not started
        have hover := inFlight?_eq_none_iff.mp h
        simp only [ending?, h, Option.map_none, Option.toList_none, List.map_nil,
          List.not_mem_nil, or_false, Event.answers, Bool.or_eq_true, Bool.and_eq_true,
          decide_eq_true_eq, beq_iff_eq]
        constructor
        · exact .inl
        · rintro (hbefore | ⟨hlt, rfl⟩)
          · exact hbefore
          · exact hover.resolve_right (Nat.not_le_of_lt hlt)
      | some call =>
        -- the call is in flight, so the answer is behind its start
        have hlt : n < (started events).length :=
          (List.getElem?_eq_some_iff.mp (inFlight?_eq_some_iff.mp h).2).1
        simp only [ending?, h, Option.map_some, Option.toList_some, List.map_cons, List.map_nil,
          List.mem_singleton, Event.answers, Bool.or_eq_true, Bool.and_eq_true,
          decide_eq_true_eq, beq_iff_eq]
        constructor
        · rintro (hbefore | rfl)
          · exact .inl hbefore
          · exact .inr ⟨hlt, rfl⟩
        · rintro (hbefore | ⟨-, rfl⟩)
          · exact .inl hbefore
          · exact .inr rfl
    | _ => simp [ending?, Event.answers]

/-- No call ends twice. -/
theorem nodup_number_endings (events : List (Event η)) :
    ((endings events).map (·.number)).Nodup := by
  induction events using List.reverseRecOn with
  | nil => simp [endings]
  | append_singleton events event ih =>
    rw [endings_concat, List.map_append]
    cases h : ending? events event with
    | none => simpa using ih
    | some e =>
      -- the call is in flight, so it has not been answered
      obtain ⟨-, -, hcall⟩ := ending?_eq_some_iff.mp h
      have hnot : e.number ∉ (endings events).map (·.number) := by
        rw [number_mem_endings_iff, (inFlight?_eq_some_iff.mp hcall).1]
        exact Bool.false_ne_true
      exact List.Nodup.append ih (List.nodup_singleton _) (List.disjoint_singleton.mpr hnot)

end ManagementModel.Dispatcher
