import Mathlib.Data.Set.Card
import Notary.Proofs.Registry.History
import Notary.Proofs.Registry.Slots

namespace Notary

/-!
The counts of a registry. Beside the table stand a count for each kind and a gauge that shows it; both
follow the table through every run, and a request that fails moves neither.
-/

theorem Counts.get_set (counts : Counts) (kind other : Kind) (count : Nat) :
    (counts.set kind count).get other = if other = kind then count else counts.get other := by
  cases kind <;> cases other <;> rfl

def Counts.total (counts : Counts) : Nat :=
  counts.get .signer + counts.get .submission + counts.get .receipt

theorem Counts.total_set (counts : Counts) (kind : Kind) (count : Nat) :
    (counts.set kind count).total + counts.get kind = counts.total + count := by
  cases kind <;> simp only [total, get, set] <;> omega

theorem Counts.get_le_total (counts : Counts) (kind : Kind) : counts.get kind ≤ counts.total := by
  cases kind <;> simp only [total] <;> omega

namespace Registry

/-- The kind of the object that a request registered. -/
def Event.registered? : Event → Option Kind
  | ⟨.register object, .ok _⟩ => some object.kind
  | _ => none

/-- The failure in a reply, if it is one. -/
def failureOf {α : Type} : Except Error α → Option Error
  | .ok _ => none
  | .error e => some e

/-- The failure that a request was answered with. -/
def Event.failure? : Event → Option Error
  | ⟨.register _, reply⟩ => failureOf reply
  | ⟨.resolve _, reply⟩ => failureOf reply
  | ⟨.signer _, reply⟩ => failureOf reply
  | ⟨.submission _, reply⟩ => failureOf reply
  | ⟨.receipt _, reply⟩ => failureOf reply
  | ⟨.release _, reply⟩ => failureOf reply
  | ⟨.releaseKind _ _, reply⟩ => failureOf reply

/-- The failure with which a request is turned away. -/
def Request.refusal : Request → Error
  | .register _ => .registryFull
  | .resolve word | .signer word | .submission word | .receipt word | .release word
  | .releaseKind word _ => .invalidHandle word.toInt

def registered (history : List Event) : List Kind :=
  history.filterMap Event.registered?

/-- The handles that are live for objects of a kind. -/
def liveHandles (history : List Event) (kind : Kind) : Set Handle :=
  {handle | ∃ object, Live history handle object ∧ object.kind = kind}

/-- The slots that hold an object of a kind. -/
def stock (registry : Registry) (kind : Kind) : Finset Nat :=
  registry.arena.holding fun object => object.kind = kind

variable {registry after : Registry} {handle : Handle} {object : Object} {kind : Kind} {e : Error}
  {history : List Event} {event : Event}

/-! What each operation does to the counts. -/

theorem register_recounts (registered : registry.register object = (.ok handle, after)) :
    after = { registry with arena := after.arena }.recount object.kind
      (registry.counts.get object.kind + 1) := by
  unfold register at registered
  split at registered
  · cases registered
  · cases registered
    rfl

theorem release_recounts (released : registry.release handle = (.ok object, after)) :
    after = { registry with arena := after.arena }.recount object.kind
      (registry.counts.get object.kind - 1) := by
  unfold release at released
  split at released
  · cases released
  · cases released
    rfl

theorem release_of_get? (stored : registry.arena.get? handle = some object) :
    ∃ after, registry.release handle = (.ok object, after) := by
  cases released : registry.release handle with
  | mk result after =>
      cases result with
      | ok found =>
          cases stored.symm.trans (release_ok released).1
          exact ⟨after, rfl⟩
      | error e =>
          unfold release at released
          split at released
          · next removed =>
              cases stored.symm.trans (Arena.remove_none removed).2
          · cases released

theorem releaseKind_of_resolve (resolved : registry.resolve handle = .ok object) :
    registry.releaseKind handle object.kind = registry.release handle := by
  have stored := resolve_eq_ok.mp resolved
  simp only [releaseKind, stored, if_true]

theorem releaseKind_ok_iff :
    (∃ object, (registry.releaseKind handle kind).1 = .ok object) ↔
      ∃ object, registry.resolve handle = .ok object ∧ object.kind = kind := by
  constructor
  · rintro ⟨object, succeeds⟩
    obtain ⟨same, released⟩ := releaseKind_ok (Prod.ext succeeds rfl)
    exact ⟨object, resolve_eq_ok.mpr (release_ok released).1, same⟩
  · rintro ⟨object, resolved, rfl⟩
    obtain ⟨after, released⟩ := release_of_get? (resolve_eq_ok.mp resolved)
    exact ⟨object, by rw [releaseKind_of_resolve resolved, released]⟩

/-! Requests that fail. -/

theorem resolve_refused (refused : registry.resolve handle = .error e) :
    e = .invalidHandle handle.raw :=
  resolve_bind_eq_error (fun _ _ failed => by cases failed) ((bind_pure _).trans refused)

theorem failureOf_eq_some {α : Type} {reply : Except Error α} :
    failureOf reply = some e ↔ reply = .error e := by
  cases reply <;> simp [failureOf]

theorem answer_failed (request : Request)
    (failed : Event.failure? ⟨request, (registry.answer request).1⟩ = some e) :
    (registry.answer request).2 = registry ∧ e = request.refusal := by
  cases request with
  | register object => exact register_error (Prod.ext (failureOf_eq_some.mp failed) rfl)
  | release word => exact release_error (Prod.ext (failureOf_eq_some.mp failed) rfl)
  | releaseKind word kind => exact releaseKind_error (Prod.ext (failureOf_eq_some.mp failed) rfl)
  | resolve word => exact ⟨rfl, resolve_refused (failureOf_eq_some.mp failed)⟩
  | signer word => exact ⟨rfl, signer_refused (failureOf_eq_some.mp failed)⟩
  | submission word => exact ⟨rfl, submission_refused (failureOf_eq_some.mp failed)⟩
  | receipt word => exact ⟨rfl, receipt_refused (failureOf_eq_some.mp failed)⟩

/-! What the history of a registry tells of its counts. -/

/-- A history that accounts for the counts of a registry: they count what the table holds, and the
gauge of a kind shows its count once an object of the kind was registered. -/
structure Balanced (history : List Event) (registry : Registry) : Prop where
  traced : Traced history registry
  total : registry.arena.live = registry.counts.total
  counted : ∀ kind, registry.counts.get kind = (registry.stock kind).card
  gauges : ∀ kind, registry.gauges.get? (.liveHandles kind) =
    if kind ∈ registered history then some (registry.counts.get kind) else none

theorem registered_append (history : List Event) (event : Event) :
    registered (history ++ [event]) = registered history ++ event.registered?.toList := by
  cases kind : event.registered? <;> simp [registered, kind]

theorem Live.registered (live : Live history handle object) :
    object.kind ∈ registered history := by
  obtain ⟨before, after, rfl, _⟩ := live
  simp [Registry.registered, Event.registered?]

theorem recount_gauge (registry : Registry) (kind other : Kind) (count : Nat) :
    (registry.recount kind count).gauges.get? (.liveHandles other) =
      if other = kind then some count else registry.gauges.get? (.liveHandles other) := by
  by_cases same : other = kind
  · rw [same, if_pos rfl]
    exact Metrics.get?_set_self _ _ _
  · rw [if_neg same]
    exact Metrics.get?_set_of_ne (by simpa using same) _ _

theorem stock_filled (filled : registry.arena.Filled object handle after.arena) (kind : Kind) :
    (after.stock kind).card = (registry.stock kind).card + if kind = object.kind then 1 else 0 := by
  simpa [stock, eq_comm] using filled.card_holding fun object => object.kind = kind

theorem stock_emptied (emptied : registry.arena.Emptied handle after.arena)
    (stored : registry.arena.get? handle = some object) (kind : Kind) :
    (registry.stock kind).card = (after.stock kind).card + if kind = object.kind then 1 else 0 := by
  simpa [stock, eq_comm] using emptied.card_holding stored fun object => object.kind = kind

namespace Balanced

theorem positive (balanced : Balanced history registry)
    (stored : registry.arena.get? handle = some object) : 0 < registry.counts.get object.kind := by
  rw [balanced.counted, Finset.card_pos]
  obtain ⟨_, found⟩ := Arena.get?_eq_some.mp stored
  exact ⟨handle.index, Arena.mem_holding.mpr ⟨_, object, found, by simp⟩⟩

theorem registered (balanced : Balanced history registry)
    (stored : registry.register object = (.ok handle, after)) :
    Balanced (history ++ [⟨.register object, .ok handle⟩]) after := by
  have placed := register_ok balanced.traced.wellFormed stored
  have recounted := register_recounts stored
  have counts : after.counts =
      registry.counts.set object.kind (registry.counts.get object.kind + 1) := by
    rw [recounted]
    rfl
  refine {
    traced := balanced.traced.registered placed
    total := ?_
    counted := ?_
    gauges := ?_ }
  · have total := registry.counts.total_set object.kind (registry.counts.get object.kind + 1)
    rw [placed.live_eq, counts, balanced.total]
    omega
  · intro kind
    rw [stock_filled (placed.filled balanced.traced.wellFormed), counts, Counts.get_set,
      ← balanced.counted]
    by_cases same : kind = object.kind <;> simp [same]
  · intro kind
    rw [registered_append, counts, Counts.get_set, recounted, recount_gauge]
    by_cases same : kind = object.kind
    · simp [same, Event.registered?]
    · simp [same, Event.registered?, balanced.gauges kind]

theorem released (balanced : Balanced history registry) (word : handle.IsWord)
    (released : registry.release handle = (.ok object, after))
    (unregistered : event.registered? = none) (traced : Traced (history ++ [event]) after) :
    Balanced (history ++ [event]) after := by
  obtain ⟨stored, taken⟩ := release_ok released
  have recounted := release_recounts released
  have counts : after.counts =
      registry.counts.set object.kind (registry.counts.get object.kind - 1) := by
    rw [recounted]
    rfl
  have positive := balanced.positive stored
  refine {
    traced := traced
    total := ?_
    counted := ?_
    gauges := ?_ }
  · have total := registry.counts.total_set object.kind (registry.counts.get object.kind - 1)
    rw [taken.live_eq, counts, balanced.total]
    omega
  · intro kind
    have fewer := stock_emptied (taken.emptied balanced.traced.wellFormed stored) stored kind
    rw [← balanced.counted] at fewer
    rw [counts, Counts.get_set]
    by_cases same : kind = object.kind
    · subst same
      simp only [if_true] at fewer ⊢
      omega
    · simpa [same] using fewer
  · intro kind
    rw [registered_append, unregistered, counts, Counts.get_set, recounted, recount_gauge]
    by_cases same : kind = object.kind
    · -- Only an object that was registered can be released.
      have known : object.kind ∈ Registry.registered history :=
        Live.registered ((balanced.traced.live handle word object).mp stored)
      simp [same, known]
    · simp [same, balanced.gauges kind]

theorem kept (balanced : Balanced history registry) (unregistered : event.registered? = none)
    (traced : Traced (history ++ [event]) registry) : Balanced (history ++ [event]) registry where
  traced := traced
  total := balanced.total
  counted := balanced.counted
  gauges := by simpa [registered_append, unregistered] using balanced.gauges

theorem step (balanced : Balanced history registry) (request : Request) :
    Balanced (history ++ [⟨request, (registry.answer request).1⟩]) (registry.answer request).2 := by
  have traced := balanced.traced.moves (answer_moves balanced.traced.wellFormed request)
  cases request with
  | register object =>
      cases answered : registry.register object with
      | mk result after =>
          simp only [answer, answered] at traced ⊢
          cases result with
          | ok handle => exact balanced.registered answered
          | error e =>
              rw [(register_error answered).1] at traced ⊢
              exact balanced.kept rfl traced
  | release word =>
      cases answered : registry.release (.ofWord word) with
      | mk result after =>
          simp only [answer, answered] at traced ⊢
          cases result with
          | ok object => exact balanced.released (Handle.ofWord_isWord word) answered rfl traced
          | error e =>
              rw [(release_error answered).1] at traced ⊢
              exact balanced.kept rfl traced
  | releaseKind word kind =>
      cases answered : registry.releaseKind (.ofWord word) kind with
      | mk result after =>
          simp only [answer, answered] at traced ⊢
          cases result with
          | ok object =>
              exact balanced.released (Handle.ofWord_isWord word) (releaseKind_ok answered).2 rfl
                traced
          | error e =>
              rw [(releaseKind_error answered).1] at traced ⊢
              exact balanced.kept rfl traced
  | resolve word | signer word | submission word | receipt word => exact balanced.kept rfl traced

theorem run (balanced : Balanced history registry) (requests : List Request) :
    Balanced (history ++ (registry.run requests).1) (registry.run requests).2 := by
  induction requests generalizing history registry with
  | nil => simpa [Registry.run] using balanced
  | cons request rest ih =>
      have later := ih (balanced.step request)
      rw [List.append_assoc, List.singleton_append] at later
      exact later

end Balanced

theorem withCapacity_balanced (capacity : Nat) : Balanced [] (withCapacity capacity) where
  traced := withCapacity_traced capacity
  total := rfl
  counted := by
    intro kind
    cases kind <;> simp [withCapacity, Arena.withCapacity, stock, Arena.holding, Counts.get]
  gauges := fun _ => rfl

/-! Live handles and the slots that they name. -/

theorem Traced.live_stored (traced : Traced history registry) (live : Live history handle object) :
    handle.IsWord ∧ 0 ≤ handle.raw ∧
      registry.arena.slots[handle.index]? = some ⟨handle.generation, some object⟩ := by
  obtain ⟨nonneg, below⟩ := traced.words handle live.issued
  have word : handle.IsWord := ⟨by omega, below⟩
  exact ⟨word, Arena.get?_eq_some.mp ((traced.live handle word object).mpr live)⟩

theorem Traced.index_injOn (traced : Traced history registry) (kind : Kind) :
    Set.InjOn Handle.index (liveHandles history kind) := by
  rintro first ⟨object, live, _⟩ second ⟨other, liveToo, _⟩ same
  obtain ⟨word, nonneg, found⟩ := traced.live_stored live
  obtain ⟨wordToo, nonnegToo, foundToo⟩ := traced.live_stored liveToo
  rw [same, foundToo] at found
  simp only [Option.some.injEq, Slot.mk.injEq] at found
  rw [← Handle.pack_index_generation word nonneg,
    ← Handle.pack_index_generation wordToo nonnegToo, same, found.1]

theorem Traced.index_image (traced : Traced history registry) (kind : Kind) :
    Handle.index '' liveHandles history kind = registry.stock kind := by
  ext index
  rw [Finset.mem_coe, stock, Arena.mem_holding]
  constructor
  · rintro ⟨handle, ⟨object, live, same⟩, rfl⟩
    exact ⟨_, object, (traced.live_stored live).2.2, by simpa using same⟩
  · rintro ⟨generation, object, found, same⟩
    have wellFormed := traced.wellFormed
    have inside := Nat.lt_of_lt_of_le (Array.getElem?_eq_some_iff.mp found).1 wellFormed.room
    have bounded : generation ≤ Handle.lastGeneration := wellFormed.generations index _ found
    have stored : registry.arena.get? (.pack index generation) = some object := by
      rw [Arena.get?_eq_some, Handle.index_pack inside, Handle.generation_pack inside bounded]
      exact ⟨Handle.pack_raw_nonneg index generation, found⟩
    have live := (traced.live _ (Handle.pack_isWord inside bounded) object).mp stored
    exact ⟨.pack index generation, ⟨object, live, by simpa using same⟩,
      Handle.index_pack inside generation⟩

/-- The live handles of a kind are as many as the slots that hold an object of the kind. -/
theorem Traced.ncard_liveHandles (traced : Traced history registry) (kind : Kind) :
    (liveHandles history kind).ncard = (registry.stock kind).card := by
  rw [← (traced.index_injOn kind).ncard_image, traced.index_image kind,
    Set.ncard_coe_finset]

/-- The counts of a registry are exact after every run: each is the number of live objects of its kind,
all of them make up the size of the table, none stands at zero where an object of its kind can be
released, and its gauge shows it from the first registration of the kind on. A release by kind is a
release of an object of the kind, and a request that fails leaves the registry as it was. -/
theorem counts_are_exact (capacity : Nat) (requests : List Request) :
    let (history, registry) := (withCapacity capacity).run requests
    (∀ kind, registry.count kind = (liveHandles history kind).ncard) ∧
    registry.count .signer + registry.count .submission + registry.count .receipt = registry.size ∧
    (∀ word object, registry.resolve (.ofWord word) = .ok object →
      0 < registry.count object.kind ∧ 0 < registry.size) ∧
    (∀ kind, registry.gauges.get? (.liveHandles kind) =
      if kind ∈ registered history then some (registry.count kind) else none) ∧
    (∀ word kind,
      ((∃ object, (registry.releaseKind (.ofWord word) kind).1 = .ok object) ↔
        ∃ object, registry.resolve (.ofWord word) = .ok object ∧ object.kind = kind) ∧
      ∀ object, registry.resolve (.ofWord word) = .ok object → object.kind = kind →
        registry.releaseKind (.ofWord word) kind = registry.release (.ofWord word) ∧
        (registry.release (.ofWord word)).1 = .ok object) ∧
    ∀ request e, Event.failure? ⟨request, (registry.answer request).1⟩ = some e →
      (registry.answer request).2 = registry ∧ e = request.refusal := by
  have balanced := (withCapacity_balanced capacity).run requests
  rw [List.nil_append] at balanced
  refine ⟨fun kind => ?_, balanced.total.symm, fun word object resolved => ?_, balanced.gauges,
    fun word kind => ⟨releaseKind_ok_iff, ?_⟩, fun request e failed => answer_failed request failed⟩
  · rw [balanced.traced.ncard_liveHandles]
    exact balanced.counted kind
  · have positive := balanced.positive (resolve_eq_ok.mp resolved)
    have within := Counts.get_le_total
      ((withCapacity capacity).run requests).2.counts object.kind
    rw [← balanced.total] at within
    exact ⟨positive, Nat.lt_of_lt_of_le positive within⟩
  · rintro object resolved rfl
    obtain ⟨after, released⟩ := release_of_get? (resolve_eq_ok.mp resolved)
    exact ⟨releaseKind_of_resolve resolved, by rw [released]⟩

end Registry

end Notary
