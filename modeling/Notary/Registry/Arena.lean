import Notary.Registry.Handle

namespace Notary

/-!
A table of slots under handles. Taking a value out of a slot raises the slot's generation, so that
the old handle never names the slot's next value; a slot whose generation cannot be raised any more
is retired.
-/

structure Slot (α : Type) where
  generation : Nat
  value : Option α

structure Arena (α : Type) where
  slots : Array (Slot α)
  /-- Vacant slots to be used again, the last one freed first. -/
  free : List Nat
  live : Nat
  capacity : Nat

namespace Arena

variable {α : Type}

/-- A table of at most `capacity` slots, and of no more than handles can name. -/
def withCapacity (capacity : Nat) : Arena α :=
  ⟨#[], [], 0, min capacity Handle.slots⟩

def empty : Arena α :=
  withCapacity Handle.slots

instance : Inhabited (Arena α) := ⟨empty⟩

/-- Stores a value under a new handle; there is none when every slot is taken. -/
def insert (arena : Arena α) (value : α) : Option Handle × Arena α :=
  match arena with
  | ⟨slots, index :: free, live, capacity⟩ =>
      match slots[index]? with
      | none => (none, ⟨slots, index :: free, live, capacity⟩)
      | some slot =>
          (some (.pack index slot.generation),
            ⟨slots.setIfInBounds index ⟨slot.generation, some value⟩, free, live + 1, capacity⟩)
  | ⟨slots, [], live, capacity⟩ =>
      if capacity ≤ slots.size then (none, ⟨slots, [], live, capacity⟩)
      else (some (.pack slots.size 0), ⟨slots.push ⟨0, some value⟩, [], live + 1, capacity⟩)

/-- The occupied slot that a handle names: its index, its generation and its value. -/
def locate (arena : Arena α) (handle : Handle) : Option (Nat × Nat × α) :=
  if handle.raw < 0 then none
  else
    match arena.slots[handle.index]? with
    | some ⟨generation, some value⟩ =>
        if generation = handle.generation then some (handle.index, generation, value) else none
    | _ => none

def get? (arena : Arena α) (handle : Handle) : Option α :=
  (arena.locate handle).map fun found => found.2.2

def contains (arena : Arena α) (handle : Handle) : Bool :=
  (arena.get? handle).isSome

def remove (arena : Arena α) (handle : Handle) : Option α × Arena α :=
  match arena.locate handle with
  | none => (none, arena)
  | some (index, generation, value) =>
      let { slots, free, live, capacity } := arena
      if generation < Handle.lastGeneration then
        (some value,
          ⟨slots.setIfInBounds index ⟨generation + 1, none⟩, index :: free, live - 1, capacity⟩)
      else
        (some value, ⟨slots.setIfInBounds index ⟨generation, none⟩, free, live - 1, capacity⟩)

def size (arena : Arena α) : Nat :=
  arena.live

/-- Stores up to `count` copies of a value, as long as there is room: how many were stored, and the
last handle. -/
def fill (value : α) : (count : Nat) → Arena α → (stored : Nat) → Option Handle →
    Nat × Option Handle × Arena α
  | 0, arena, stored, last => (stored, last, arena)
  | count + 1, arena, stored, last =>
      match arena.insert value with
      | (none, arena) => (stored, last, arena)
      | (some handle, arena) => fill value count arena (stored + 1) (some handle)

/-- Stores a value and takes it out again up to `count` times, as long as there is room: how often,
and the last handle. -/
def cycle (value : α) : (count : Nat) → Arena α → (done : Nat) → Option Handle →
    Nat × Option Handle × Arena α
  | 0, arena, done, last => (done, last, arena)
  | count + 1, arena, done, last =>
      match arena.insert value with
      | (none, arena) => (done, last, arena)
      | (some handle, arena) => cycle value count (arena.remove handle).2 (done + 1) (some handle)

end Arena

end Notary
