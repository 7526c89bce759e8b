import Notary.Metrics
import Notary.Registry.Arena
import Notary.Submission

namespace Notary

/-!
The registry of handles: signers, submissions and receipts in one table, with a count for each kind
that its gauge shows. A handle that is unknown, stale or of another kind is invalid, and an invalid
handle changes nothing.
-/

/-- What a handle stands for. A submission is named by its number in the list of all cases. -/
inductive Object where
  | signer (signer : Signer)
  | submission (number : Nat)
  | receipt (record : FinalityRecord)
  deriving Inhabited

def Object.kind : Object → Kind
  | .signer _ => .signer
  | .submission _ => .submission
  | .receipt _ => .receipt

structure Counts where
  signers : Nat
  submissions : Nat
  receipts : Nat
  deriving DecidableEq, Repr, Inhabited

namespace Counts

def get (counts : Counts) : Kind → Nat
  | .signer => counts.signers
  | .submission => counts.submissions
  | .receipt => counts.receipts

def set (counts : Counts) (kind : Kind) (count : Nat) : Counts :=
  match kind with
  | .signer => { counts with signers := count }
  | .submission => { counts with submissions := count }
  | .receipt => { counts with receipts := count }

end Counts

structure Registry where
  arena : Arena Object
  counts : Counts
  gauges : Metrics
  deriving Inhabited

namespace Registry

def withCapacity (capacity : Nat) : Registry :=
  ⟨.withCapacity capacity, ⟨0, 0, 0⟩, .empty⟩

def empty : Registry :=
  withCapacity Handle.slots

/-- Sets the count of a kind, and the gauge that shows it. -/
def recount (registry : Registry) (kind : Kind) (count : Nat) : Registry :=
  { registry with
    counts := registry.counts.set kind count
    gauges := registry.gauges.set (.liveHandles kind) count }

def register (registry : Registry) (object : Object) : Except Error Handle × Registry :=
  match registry.arena.insert object with
  | (none, _) => (.error .registryFull, registry)
  | (some handle, arena) =>
      let count := registry.counts.get object.kind
      (.ok handle, { registry with arena }.recount object.kind (count + 1))

def resolve (registry : Registry) (handle : Handle) : Except Error Object :=
  match registry.arena.get? handle with
  | none => .error (.invalidHandle handle.raw)
  | some object => .ok object

/-- Removes the object under a handle, whatever its kind. -/
def release (registry : Registry) (handle : Handle) : Except Error Object × Registry :=
  match registry.arena.remove handle with
  | (none, _) => (.error (.invalidHandle handle.raw), registry)
  | (some object, arena) =>
      let count := registry.counts.get object.kind
      (.ok object, { registry with arena }.recount object.kind (count - 1))

/-- Removes the object under a handle if it is of the given kind. -/
def releaseKind (registry : Registry) (handle : Handle) (kind : Kind) :
    Except Error Object × Registry :=
  match registry.arena.get? handle with
  | none => (.error (.invalidHandle handle.raw), registry)
  | some object =>
      if object.kind = kind then registry.release handle
      else (.error (.invalidHandle handle.raw), registry)

def signer (registry : Registry) (handle : Handle) : Except Error Signer := do
  match ← registry.resolve handle with
  | .signer signer => .ok signer
  | _ => .error (.invalidHandle handle.raw)

def submission (registry : Registry) (handle : Handle) : Except Error Nat := do
  match ← registry.resolve handle with
  | .submission number => .ok number
  | _ => .error (.invalidHandle handle.raw)

def receipt (registry : Registry) (handle : Handle) : Except Error FinalityRecord := do
  match ← registry.resolve handle with
  | .receipt record => .ok record
  | _ => .error (.invalidHandle handle.raw)

/-- Registers an object and releases it again `count` times, up to the first failure: the last
handle. -/
def cycle (object : Object) : (count : Nat) → Registry → Option Handle →
    Except Error (Option Handle) × Registry
  | 0, registry, last => (.ok last, registry)
  | count + 1, registry, _ =>
      match registry.register object with
      | (.error e, registry) => (.error e, registry)
      | (.ok handle, registry) =>
          match registry.release handle with
          | (.error e, registry) => (.error e, registry)
          | (.ok _, registry) => cycle object count registry (some handle)

def contains (registry : Registry) (handle : Handle) : Bool :=
  registry.arena.contains handle

def size (registry : Registry) : Nat :=
  registry.arena.size

def count (registry : Registry) (kind : Kind) : Nat :=
  registry.counts.get kind

end Registry

end Notary
