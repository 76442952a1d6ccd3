/-!
# ManagementModel — a bus with a bounded memory

Values are published to all receivers there are at that time. The bus remembers the last of them,
as many as its capacity, and each receiver goes through them at its own pace. A receiver that falls
behind is told once how many values it missed, and goes on with the oldest that is remembered. A
value that is published while there is no receiver is gone.

The capacity is a power of two, the least that is not below the one asked for.
-/

namespace ManagementModel

structure Bus (α : Type) where
  capacity : Nat
  /-- How many values have been published to receivers. -/
  position : Nat
  /-- The last of these values, the oldest first. -/
  remembered : List α
  /-- How many receivers there are. -/
  receivers : Nat
  isOpen : Bool
deriving Repr

/-- A receiver is the position of the value that it gets next. -/
structure Receiver where
  next : Nat
deriving DecidableEq, Repr

/-- What a receiver is told. -/
inductive Delivery (α : Type) where
  | value (a : α)
  | lagged (missed : Nat)
  | empty
  | closed
deriving DecidableEq, Repr

namespace Bus

variable {α : Type}

/-- Doubles `n` until it reaches `target`. -/
def doubleUpTo (target : Nat) (n : Nat) : (fuel : Nat) → Nat
  | 0 => n
  | fuel + 1 => if target ≤ n then n else doubleUpTo target (2 * n) fuel

/-- The least power of two that is not below `n`. -/
def powerOfTwo (n : Nat) : Nat :=
  doubleUpTo n 1 n

/-- A bus that remembers at least `capacity` values, and at least one. -/
def ofCapacity (capacity : Nat) : Bus α :=
  ⟨powerOfTwo (max 1 capacity), 0, [], 0, true⟩

/-- The capacity of a bus where none is asked for. -/
def defaultCapacity : Nat := 64

/-- A new receiver gets what is published from now on. -/
def subscribe (bus : Bus α) : Bus α × Receiver :=
  ({ bus with receivers := bus.receivers + 1 }, ⟨bus.position⟩)

def unsubscribe (bus : Bus α) : Bus α :=
  { bus with receivers := bus.receivers - 1 }

def publish (bus : Bus α) (a : α) : Bus α :=
  if bus.receivers = 0 then bus
  else
    let values := bus.remembered ++ [a]
    { bus with
      position := bus.position + 1
      remembered := values.drop (values.length - bus.capacity) }

/-- Nothing is published on a closed bus. -/
def close (bus : Bus α) : Bus α :=
  { bus with isOpen := false }

/-- What a receiver is told next, and where it goes on. -/
def receive (bus : Bus α) (r : Receiver) : Delivery α × Receiver :=
  let oldest := bus.position - bus.remembered.length
  if r.next < oldest then (.lagged (oldest - r.next), ⟨oldest⟩)
  else
    match bus.remembered[r.next - oldest]? with
    | some a => (.value a, ⟨r.next + 1⟩)
    | none => (if bus.isOpen then .empty else .closed, r)

end Bus

end ManagementModel
