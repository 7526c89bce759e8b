import Notary.Proofs.Registry.Arena
import Notary.Registry.Basic

namespace Notary

/-!
The history of a registry: every request that was made and how it was answered. A handle is live from
the request that registered its object to the request that releases it, and never again.
-/

/-- An entry of the longer history is the latest one, or has the latest one behind it. -/
theorem concat_eq_split {α : Type} {history earlier later : List α} {entry latest : α} :
    history ++ [latest] = earlier ++ entry :: later ↔
    (later = [] ∧ earlier = history ∧ entry = latest) ∨
      ∃ middle, later = middle ++ [latest] ∧ history = earlier ++ entry :: middle := by
  constructor
  · intro split
    obtain rfl | ⟨middle, last, rfl⟩ := List.eq_nil_or_concat later
    · obtain ⟨rfl, same⟩ := List.append_inj' split rfl
      exact .inl ⟨rfl, rfl, (List.singleton_inj.mp same).symm⟩
    · rw [List.concat_eq_append, ← List.cons_append, ← List.append_assoc] at split
      obtain ⟨rfl, same⟩ := List.append_inj' split rfl
      rw [List.singleton_inj.mp same]
      exact .inr ⟨middle, List.concat_eq_append, rfl⟩
  · rintro (⟨rfl, rfl, rfl⟩ | ⟨middle, rfl, rfl⟩)
    · rfl
    · simp

def Handle.ofWord (word : Int32) : Handle := ⟨word.toInt⟩

theorem Handle.ofWord_isWord (word : Int32) : (ofWord word).IsWord :=
  ⟨word.le_toInt, word.toInt_lt⟩

namespace Registry

inductive Request where
  | register (object : Object)
  | resolve (word : Int32)
  | signer (word : Int32)
  | submission (word : Int32)
  | receipt (word : Int32)
  | release (word : Int32)
  | releaseKind (word : Int32) (kind : Kind)

@[reducible] def Request.Reply : Request → Type
  | register _ => Except Error Handle
  | resolve _ => Except Error Object
  | signer _ => Except Error Signer
  | submission _ => Except Error Nat
  | receipt _ => Except Error FinalityRecord
  | release _ => Except Error Object
  | releaseKind _ _ => Except Error Object

def answer (registry : Registry) : (request : Request) → request.Reply × Registry
  | .register object => registry.register object
  | .resolve word => (registry.resolve (.ofWord word), registry)
  | .signer word => (registry.signer (.ofWord word), registry)
  | .submission word => (registry.submission (.ofWord word), registry)
  | .receipt word => (registry.receipt (.ofWord word), registry)
  | .release word => registry.release (.ofWord word)
  | .releaseKind word kind => registry.releaseKind (.ofWord word) kind

structure Event where
  request : Request
  reply : request.Reply

namespace Event

/-- The handle that a request was given. -/
def issued? : Event → Option Handle
  | ⟨.register _, .ok handle⟩ => some handle
  | _ => none

/-- The handle that a request took out of use. -/
def released? : Event → Option Handle
  | ⟨.release word, .ok _⟩ => some (.ofWord word)
  | ⟨.releaseKind word _, .ok _⟩ => some (.ofWord word)
  | _ => none

end Event

/-- Answers requests one after the other: the history of them, and the registry they leave. -/
def run (registry : Registry) : List Request → List Event × Registry
  | [] => ([], registry)
  | request :: rest =>
      let (reply, after) := registry.answer request
      let (history, last) := run after rest
      (⟨request, reply⟩ :: history, last)

def issued (history : List Event) : List Handle :=
  history.filterMap Event.issued?

/-- The handle was given out for the object and has not been released since. -/
def Live (history : List Event) (handle : Handle) (object : Object) : Prop :=
  ∃ before after, history = before ++ ⟨.register object, .ok handle⟩ :: after ∧
    ∀ event ∈ after, event.released? ≠ some handle

variable {registry after : Registry} {handle : Handle} {object : Object} {kind : Kind} {e : Error}

/-! What each operation does to the table. -/

theorem resolve_eq_ok : registry.resolve handle = .ok object ↔
    registry.arena.get? handle = some object := by
  unfold resolve
  split <;> simp_all

theorem resolve_eq_error (absent : registry.arena.get? handle = none) :
    registry.resolve handle = .error (.invalidHandle handle.raw) := by
  simp [resolve, absent]

theorem receipt_eq_ok {record : FinalityRecord} : registry.receipt handle = .ok record ↔
    registry.arena.get? handle = some (.receipt record) := by
  unfold receipt resolve
  cases registry.arena.get? handle with
  | none => exact ⟨nofun, nofun⟩
  | some object =>
      cases object with
      | receipt other =>
          constructor <;> rintro ⟨⟩ <;> rfl
      | signer | submission => exact ⟨nofun, nofun⟩

theorem receipt_eq_error (absent : registry.arena.get? handle = none) :
    registry.receipt handle = .error (.invalidHandle handle.raw) := by
  rw [receipt, resolve_eq_error absent]
  rfl

/-- What takes only objects of one kind from under handles fails as an unknown handle does. -/
theorem resolve_bind_eq_error {α : Type} {select : Object → Except Error α}
    (selects : ∀ object e, select object = .error e → e = .invalidHandle handle.raw)
    (refused : (registry.resolve handle >>= select) = .error e) : e = .invalidHandle handle.raw := by
  cases stored : registry.arena.get? handle with
  | none =>
      rw [resolve_eq_error stored] at refused
      cases refused
      rfl
  | some object =>
      rw [resolve_eq_ok.mpr stored] at refused
      exact selects object e refused

theorem signer_refused (refused : registry.signer handle = .error e) :
    e = .invalidHandle handle.raw :=
  resolve_bind_eq_error (fun object _ failed => by cases object <;> cases failed <;> rfl) refused

theorem submission_refused (refused : registry.submission handle = .error e) :
    e = .invalidHandle handle.raw :=
  resolve_bind_eq_error (fun object _ failed => by cases object <;> cases failed <;> rfl) refused

theorem receipt_refused (refused : registry.receipt handle = .error e) :
    e = .invalidHandle handle.raw :=
  resolve_bind_eq_error (fun object _ failed => by cases object <;> cases failed <;> rfl) refused

theorem register_ok (wellFormed : registry.arena.WellFormed)
    (registered : registry.register object = (.ok handle, after)) :
    registry.arena.Placed object handle after.arena := by
  unfold register at registered
  cases inserted : registry.arena.insert object with
  | mk result arena =>
      cases result with
      | none => simp [inserted] at registered
      | some handle =>
          simp only [inserted, Prod.mk.injEq, Except.ok.injEq] at registered
          obtain ⟨rfl, rfl⟩ := registered
          exact wellFormed.insert_some inserted

theorem register_error (refused : registry.register object = (.error e, after)) :
    after = registry ∧ e = .registryFull := by
  unfold register at refused
  split at refused
  · cases refused
    exact ⟨rfl, rfl⟩
  · simp at refused

theorem release_ok (released : registry.release handle = (.ok object, after)) :
    registry.arena.get? handle = some object ∧ registry.arena.Taken handle after.arena := by
  unfold release at released
  cases removed : registry.arena.remove handle with
  | mk result arena =>
      cases result with
      | none => simp [removed] at released
      | some found =>
          simp only [removed, Prod.mk.injEq, Except.ok.injEq] at released
          obtain ⟨rfl, rfl⟩ := released
          exact Arena.remove_some removed

theorem release_error (refused : registry.release handle = (.error e, after)) :
    after = registry ∧ e = .invalidHandle handle.raw := by
  unfold release at refused
  split at refused
  · cases refused
    exact ⟨rfl, rfl⟩
  · simp at refused

theorem releaseKind_ok (released : registry.releaseKind handle kind = (.ok object, after)) :
    object.kind = kind ∧ registry.release handle = (.ok object, after) := by
  unfold releaseKind at released
  cases stored : registry.arena.get? handle with
  | none => simp [stored] at released
  | some found =>
      by_cases same : found.kind = kind
      · simp only [stored, if_pos same] at released
        have taken := (release_ok released).1
        cases stored.symm.trans taken
        exact ⟨same, released⟩
      · simp [stored, same] at released

theorem releaseKind_error (refused : registry.releaseKind handle kind = (.error e, after)) :
    after = registry ∧ e = .invalidHandle handle.raw := by
  unfold releaseKind at refused
  split at refused
  · cases refused
    exact ⟨rfl, rfl⟩
  · split at refused
    · exact release_error refused
    · cases refused
      exact ⟨rfl, rfl⟩

/-- What a request does to the table, as its event tells. -/
inductive Moves (registry : Registry) : Event → Registry → Prop where
  | registered {object : Object} {handle : Handle} {after : Registry}
      (placed : registry.arena.Placed object handle after.arena) :
      Moves registry ⟨.register object, .ok handle⟩ after
  | released {event : Event} {handle : Handle} {object : Object} {after : Registry}
      (word : handle.IsWord) (issued : event.issued? = none)
      (released : event.released? = some handle)
      (stored : registry.arena.get? handle = some object)
      (taken : registry.arena.Taken handle after.arena) :
      Moves registry event after
  | kept {event : Event} (issued : event.issued? = none) (released : event.released? = none) :
      Moves registry event registry

theorem answer_moves (wellFormed : registry.arena.WellFormed) (request : Request) :
    registry.Moves ⟨request, (registry.answer request).1⟩ (registry.answer request).2 := by
  cases request with
  | register object =>
      cases answered : registry.register object with
      | mk result after =>
          simp only [answer, answered]
          cases result with
          | ok handle => exact .registered (register_ok wellFormed answered)
          | error e =>
              rw [(register_error answered).1]
              exact .kept rfl rfl
  | release word =>
      cases answered : registry.release (.ofWord word) with
      | mk result after =>
          simp only [answer, answered]
          cases result with
          | ok object =>
              obtain ⟨stored, taken⟩ := release_ok answered
              exact .released (Handle.ofWord_isWord word) rfl rfl stored taken
          | error e =>
              rw [(release_error answered).1]
              exact .kept rfl rfl
  | releaseKind word kind =>
      cases answered : registry.releaseKind (.ofWord word) kind with
      | mk result after =>
          simp only [answer, answered]
          cases result with
          | ok object =>
              obtain ⟨stored, taken⟩ := release_ok (releaseKind_ok answered).2
              exact .released (Handle.ofWord_isWord word) rfl rfl stored taken
          | error e =>
              rw [(releaseKind_error answered).1]
              exact .kept rfl rfl
  | resolve word | signer word | submission word | receipt word => exact .kept rfl rfl

namespace Moves

variable {event : Event}

theorem wellFormed (moves : registry.Moves event after) (wellFormed : registry.arena.WellFormed) :
    after.arena.WellFormed := by
  cases moves with
  | registered placed => exact placed.wellFormed wellFormed
  | released word given released stored taken => exact taken.wellFormed wellFormed stored
  | kept => exact wellFormed

/-- A handle that has been given out counts as given out for ever. -/
theorem spent_mono (moves : registry.Moves event after) (wellFormed : registry.arena.WellFormed)
    (spent : registry.arena.Spent handle) : after.arena.Spent handle := by
  cases moves with
  | registered placed => exact (placed.filled wellFormed).spent_mono spent
  | released word given released stored taken => exact (taken.emptied wellFormed stored).spent_mono spent
  | kept => exact spent

theorem issued (moves : registry.Moves event after) (wellFormed : registry.arena.WellFormed)
    (issued : event.issued? = some handle) : handle.IsWord ∧ after.arena.Spent handle := by
  cases moves with
  | registered placed =>
      cases issued
      have filled := placed.filled wellFormed
      exact ⟨filled.word, filled.spent⟩
  | released word given => cases given.symm.trans issued
  | kept given => cases given.symm.trans issued

theorem get?_released (moves : registry.Moves event after) (wellFormed : registry.arena.WellFormed)
    (released : event.released? = some handle) : after.arena.get? handle = none := by
  cases moves with
  | registered => cases released
  | released word given taken stored emptied =>
      cases taken.symm.trans released
      exact (emptied.emptied wellFormed stored).get?_self
  | kept given unreleased => cases unreleased.symm.trans released

/-- What stands under a handle that has been given out stays until its release. -/
theorem get?_kept (moves : registry.Moves event after) (wellFormed : registry.arena.WellFormed)
    (word : handle.IsWord) (spent : registry.arena.Spent handle)
    (unreleased : event.released? ≠ some handle) :
    after.arena.get? handle = registry.arena.get? handle := by
  cases moves with
  | registered placed =>
      have filled := placed.filled wellFormed
      refine filled.get?_of_ne word ?_
      rintro rfl
      exact filled.unspent spent
  | released otherWord given released stored taken =>
      refine (taken.emptied wellFormed stored).get?_of_ne otherWord word ?_
      rintro rfl
      exact unreleased released
  | kept => rfl

end Moves

/-! What a history tells about the table that it leaves. -/

variable {history : List Event} {event : Event}

theorem issued_append (history : List Event) (event : Event) :
    issued (history ++ [event]) = issued history ++ event.issued?.toList := by
  cases given : event.issued? <;> simp [issued, given]

theorem Live.issued (live : Live history handle object) : handle ∈ issued history := by
  obtain ⟨before, after, rfl, _⟩ := live
  simp [Registry.issued, Event.issued?]

theorem live_append : Live (history ++ [event]) handle object ↔
    event = ⟨.register object, .ok handle⟩ ∨
      Live history handle object ∧ event.released? ≠ some handle := by
  constructor
  · rintro ⟨before, after, split, unreleased⟩
    obtain ⟨-, -, same⟩ | ⟨middle, rfl, same⟩ := concat_eq_split.mp split
    · exact .inl same.symm
    · refine .inr ⟨⟨before, middle, same, ?_⟩, unreleased event (by simp)⟩
      exact fun earlier member => unreleased earlier (by simp [member])
  · rintro (rfl | ⟨⟨before, after, rfl, unreleased⟩, kept⟩)
    · exact ⟨history, [], rfl, by simp⟩
    · refine ⟨before, after ++ [event], by simp, ?_⟩
      intro later member
      rcases List.mem_append.mp member with earlier | last
      · exact unreleased later earlier
      · exact List.mem_singleton.mp last ▸ kept

/-- A history that accounts for a table: its handles are spent and distinct, and what is stored is
what is live. -/
structure Traced (history : List Event) (registry : Registry) : Prop where
  wellFormed : registry.arena.WellFormed
  spent : ∀ handle ∈ issued history, registry.arena.Spent handle
  words : ∀ handle ∈ issued history, 0 ≤ handle.raw ∧ handle.raw < 0x8000_0000
  distinct : (issued history).Nodup
  live : ∀ handle, handle.IsWord → ∀ object,
    registry.arena.get? handle = some object ↔ Live history handle object

theorem withCapacity_traced (capacity : Nat) : Traced [] (withCapacity capacity) where
  wellFormed := Arena.withCapacity_wellFormed capacity
  spent := by simp [issued]
  words := by simp [issued]
  distinct := List.nodup_nil
  live := by
    intro handle _ object
    simp [Arena.get?_eq_some, withCapacity, Arena.withCapacity, Live]

theorem Traced.registered (traced : Traced history registry)
    (placed : registry.arena.Placed object handle after.arena) :
    Traced (history ++ [⟨.register object, .ok handle⟩]) after := by
  have filled := placed.filled traced.wellFormed
  have fresh : handle ∉ issued history := fun member => filled.unspent (traced.spent handle member)
  have given (other : Handle) (member : other ∈ issued (history ++ [⟨.register object, .ok handle⟩])) :
      other ∈ issued history ∨ other = handle := by
    simpa [issued_append, Event.issued?] using member
  refine {
    wellFormed := placed.wellFormed traced.wellFormed
    spent := ?_
    words := ?_
    distinct := ?_
    live := ?_ }
  · intro other member
    rcases given other member with earlier | rfl
    · exact filled.spent_mono (traced.spent other earlier)
    · exact filled.spent
  · intro other member
    rcases given other member with earlier | rfl
    · exact traced.words other earlier
    · exact ⟨filled.nonneg, filled.word.2⟩
  · rw [issued_append]
    exact traced.distinct.append (List.nodup_singleton handle) (by simpa [Event.issued?] using fresh)
  · intro other word stored
    rw [live_append]
    by_cases same : other = handle
    · subst same
      rw [filled.get?_self]
      constructor
      · rintro ⟨⟩
        exact .inl rfl
      · rintro (registered | ⟨live, _⟩)
        · cases registered
          rfl
        · exact absurd live.issued fresh
    · rw [filled.get?_of_ne word same, traced.live other word stored]
      constructor
      · exact fun live => .inr ⟨live, by simp [Event.released?]⟩
      · rintro (registered | ⟨live, _⟩)
        · cases registered
          exact absurd rfl same
        · exact live

theorem Traced.released (traced : Traced history registry) (word : handle.IsWord)
    (given : event.issued? = none) (released : event.released? = some handle)
    (stored : registry.arena.get? handle = some object)
    (taken : registry.arena.Taken handle after.arena) : Traced (history ++ [event]) after := by
  have emptied := taken.emptied traced.wellFormed stored
  have same : issued (history ++ [event]) = issued history := by simp [issued_append, given]
  refine {
    wellFormed := taken.wellFormed traced.wellFormed stored
    spent := ?_
    words := same ▸ traced.words
    distinct := same ▸ traced.distinct
    live := ?_ }
  · intro other member
    exact emptied.spent_mono (traced.spent other (same ▸ member))
  · intro other otherWord content
    rw [live_append, released]
    have unregistered : event ≠ ⟨.register content, .ok other⟩ := by
      rintro rfl
      cases given
    by_cases same : other = handle
    · subst same
      simp [emptied.get?_self, unregistered]
    · rw [emptied.get?_of_ne word otherWord same, traced.live other otherWord content]
      simp [unregistered, Ne.symm same]

theorem Traced.kept (traced : Traced history registry) (given : event.issued? = none)
    (released : event.released? = none) : Traced (history ++ [event]) registry := by
  have same : issued (history ++ [event]) = issued history := by simp [issued_append, given]
  refine {
    wellFormed := traced.wellFormed
    spent := same ▸ traced.spent
    words := same ▸ traced.words
    distinct := same ▸ traced.distinct
    live := ?_ }
  intro handle word object
  have unregistered : event ≠ ⟨.register object, .ok handle⟩ := by
    rintro rfl
    cases given
  rw [live_append, traced.live handle word object]
  simp [unregistered, released]

theorem Traced.moves (traced : Traced history registry) (moves : registry.Moves event after) :
    Traced (history ++ [event]) after := by
  cases moves with
  | registered placed => exact traced.registered placed
  | released word given released stored taken => exact traced.released word given released stored taken
  | kept given released => exact traced.kept given released

theorem Traced.run (traced : Traced history registry) (requests : List Request) :
    Traced (history ++ (registry.run requests).1) (registry.run requests).2 := by
  induction requests generalizing history registry with
  | nil => simpa [Registry.run] using traced
  | cons request rest ih =>
      have later := ih (traced.moves (answer_moves traced.wellFormed request))
      rw [List.append_assoc, List.singleton_append] at later
      exact later

/-- Over whole runs no handle is given out twice, also where its slot was used again or retired, and
a handle resolves to the object it was registered for until it is released. -/
theorem run_handles_never_alias (capacity : Nat) (requests : List Request) :
    let (history, registry) := (withCapacity capacity).run requests
    (issued history).Nodup ∧
    (∀ handle ∈ issued history, 0 ≤ handle.raw ∧ handle.raw < 0x8000_0000) ∧
    ∀ word : Int32,
      (∀ object, registry.resolve (.ofWord word) = .ok object ↔
        Live history (.ofWord word) object) ∧
      ((∀ object, ¬ Live history (.ofWord word) object) →
        registry.resolve (.ofWord word) = .error (.invalidHandle word.toInt)) := by
  have traced := (withCapacity_traced capacity).run requests
  rw [List.nil_append] at traced
  refine ⟨traced.distinct, traced.words, fun word => ?_⟩
  have live := traced.live (.ofWord word) (Handle.ofWord_isWord word)
  constructor
  · intro object
    rw [resolve_eq_ok, live]
  · intro dead
    exact resolve_eq_error (Option.eq_none_iff_forall_ne_some.mpr fun object stored =>
      dead object ((live object).mp stored))

example : issued ((withCapacity 1).run
    [.register (.submission 7), .register (.submission 8), .release 0, .register (.submission 8)]).1
      = [⟨0⟩, ⟨0x10_0000⟩] := by
  decide

end Registry

end Notary
