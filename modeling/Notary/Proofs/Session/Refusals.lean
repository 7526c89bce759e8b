import Mathlib.Data.List.Induction
import Notary.Proofs.Session.Delivery
import Notary.Proofs.Session.Outcome

namespace Notary

/-!
Handles that name nothing of the kind that is needed. A session tells which they are by what it has
given out and released so far, and what is asked of one of them is refused before anything is done.
-/

namespace Registry

variable {registry : Registry} {handle : Handle} {kind : Kind}

/-- No object of the kind stands under the handle. -/
def Lacks (registry : Registry) (handle : Handle) (kind : Kind) : Prop :=
  ∀ object, registry.arena.get? handle = some object → object.kind ≠ kind

theorem Lacks.signer (lacks : registry.Lacks handle .signer) :
    registry.signer handle = .error (.invalidHandle handle.raw) := by
  unfold Registry.signer resolve
  cases stored : registry.arena.get? handle with
  | none => rfl
  | some object =>
      cases object with
      | signer signer => exact absurd rfl (lacks _ stored)
      | submission | receipt => rfl

theorem Lacks.submission (lacks : registry.Lacks handle .submission) :
    registry.submission handle = .error (.invalidHandle handle.raw) := by
  unfold Registry.submission resolve
  cases stored : registry.arena.get? handle with
  | none => rfl
  | some object =>
      cases object with
      | submission number => exact absurd rfl (lacks _ stored)
      | signer | receipt => rfl

theorem Lacks.receipt (lacks : registry.Lacks handle .receipt) :
    registry.receipt handle = .error (.invalidHandle handle.raw) := by
  unfold Registry.receipt resolve
  cases stored : registry.arena.get? handle with
  | none => rfl
  | some object =>
      cases object with
      | receipt record => exact absurd rfl (lacks _ stored)
      | signer | submission => rfl

theorem Lacks.releaseKind (lacks : registry.Lacks handle kind) :
    registry.releaseKind handle kind = (.error (.invalidHandle handle.raw), registry) := by
  unfold Registry.releaseKind
  cases stored : registry.arena.get? handle with
  | none => rfl
  | some object => simp only [if_neg (lacks object stored)]

end Registry

namespace Session

variable {σ : Type} {ledger : Ledger σ} {session prepared last : Session σ} {turn : Turn σ}
  {turns : List (Turn σ)} {handle : Handle} {object : Object} {kind : Kind}

/-! What is asked of a handle, and how it is refused. -/

/-- The handle that a request is about, and the kind of object it needs there. -/
def Request.handle? : Request σ → Option (Int32 × Kind)
  | signMessage word _ => some (word, .signer)
  | submitData word _ _ => some (word, .signer)
  | submitWithOptions word _ _ => some (word, .signer)
  | transactionReceipt word _ => some (word, .submission)
  | cancelSubmission word => some (word, .submission)
  | submission word => some (word, .submission)
  | receipt word => some (word, .receipt)
  | receiptNew word => some (word, .receipt)
  | releaseSigner word => some (word, .signer)
  | releaseSubmission word => some (word, .submission)
  | releaseReceipt word => some (word, .receipt)
  | _ => none

/-- What a request about a handle failed with. -/
def Request.fault? : (request : Request σ) → request.Reply → Option Fault
  | signMessage _ _, .error fault => some fault
  | submitData _ _ _, .error fault => some fault
  | submitWithOptions _ _ _, .error fault => some fault
  | transactionReceipt _ _, .error fault => some fault
  | cancelSubmission _, .error fault => some fault
  | submission _, .error fault => some fault
  | receipt _, .error fault => some fault
  | receiptNew _, .error fault => some fault
  | releaseSigner _, .error fault => some fault
  | releaseSubmission _, .error fault => some fault
  | releaseReceipt _, .error fault => some fault
  | _, _ => none

/-- The error of a request about a handle that names nothing of its kind. The number of an application
is looked at before the handle. -/
def Request.refusal (word : Int32) : Request σ → Error
  | submitData _ _ appId =>
      if appId.toInt < 0 then
        .invalidArgument ("application id " ++ toString appId.toInt ++ " is negative")
      else .invalidHandle word.toInt
  | _ => .invalidHandle word.toInt

/-- The request fails alike over every ledger, and leaves the session as it is. -/
def Refuses (session : Session σ) (request : Request σ) (e : Error) : Prop :=
  ∃ reply : request.Reply, request.fault? reply = some (.failure e) ∧
    ∀ ledger : Ledger σ, session.answer ledger request = (reply, session)

theorem submitWithOptions_refused {payload : Bytes} {options : SubmitOptions}
    (lacks : session.registry.Lacks handle .signer) (ledger : Ledger σ) :
    session.submitWithOptions ledger handle payload options =
      (.error (.failure (.invalidHandle handle.raw)), session) := by
  simp only [submitWithOptions, lacks.signer]

theorem releaseKind_refused (lacks : session.registry.Lacks handle kind) :
    session.releaseKind handle kind = (.error (.failure (.invalidHandle handle.raw)), session) := by
  simp only [releaseKind, lacks.releaseKind]
  rfl

theorem refuses_of_lacks {request : Request σ} {word : Int32}
    (named : request.handle? = some (word, kind))
    (lacks : session.registry.Lacks (.ofWord word) kind) :
    session.Refuses request (request.refusal word) := by
  cases request with
  | initializeSigner | receiptFree | record | registry | ledger => cases named
  | signMessage word message =>
      cases named
      refine ⟨.error (.failure _), rfl, fun ledger => ?_⟩
      simp only [answer, signMessage, lacks.signer]
      rfl
  | submitData word payload appId =>
      cases named
      by_cases negative : appId.toInt < 0
      · refine ⟨.error (.failure _), rfl, fun ledger => ?_⟩
        simp only [answer, submitData, Request.refusal, if_pos negative]
      · refine ⟨.error (.failure _), rfl, fun ledger => ?_⟩
        simp only [answer, submitData, Request.refusal, if_neg negative]
        exact submitWithOptions_refused lacks ledger
  | submitWithOptions word payload options =>
      cases named
      exact ⟨.error (.failure _), rfl, submitWithOptions_refused lacks⟩
  | transactionReceipt | cancelSubmission | submission =>
      cases named
      refine ⟨.error (.failure _), rfl, fun ledger => ?_⟩
      simp only [answer, transactionReceipt, cancelSubmission, findCase, lacks.submission]
      rfl
  | receipt | receiptNew =>
      cases named
      refine ⟨.error (.failure _), rfl, fun ledger => ?_⟩
      simp only [answer, receipt, receiptNew, lacks.receipt]
      rfl
  | releaseSigner | releaseSubmission | releaseReceipt =>
      cases named
      refine ⟨.error (.failure _), rfl, fun ledger => ?_⟩
      simp only [answer, releaseSigner, releaseSubmission, releaseReceipt,
        releaseKind_refused lacks]
      rfl

/-! Which handles name something. -/

/-- The handle that a turn gave out, and the kind of object under it. -/
def Turn.given? : Turn σ → Option (Handle × Kind)
  | ⟨_, .initializeSigner _, .ok handle, _⟩ => some (handle, .signer)
  | ⟨_, .submitData _ _ _, .ok handle, _⟩ => some (handle, .submission)
  | ⟨_, .submitWithOptions _ _ _, .ok handle, _⟩ => some (handle, .submission)
  | ⟨_, .transactionReceipt _ _, .ok handle, _⟩ => some (handle, .receipt)
  | ⟨_, .registry (.register object), .ok handle, _⟩ => some (handle, object.kind)
  | _ => none

/-- The handle was given out for an object of the kind and has not been released since. -/
def Live (turns : List (Turn σ)) (handle : Handle) (kind : Kind) : Prop :=
  ∃ earlier turn later, turns = earlier ++ turn :: later ∧ turn.given? = some (handle, kind) ∧
    ∀ releasing ∈ later, releasing.released? ≠ some handle

/-- What a turn gives out: nothing, and then no object is new in the table; the handle of an object
that stands there already; or a handle that was not in use. -/
inductive Gives (before after : Session σ) : Option (Handle × Kind) → Prop where
  | nothing (kept : ∀ handle object, handle.IsWord →
      after.registry.arena.get? handle = some object →
      before.registry.arena.get? handle = some object) : Gives before after none
  | again (handle : Handle) (object : Object)
      (stored : before.registry.arena.get? handle = some object)
      (same : after.registry = before.registry) : Gives before after (some (handle, object.kind))
  | anew (handle : Handle) (object : Object)
      (filled : before.registry.arena.Filled object handle after.registry.arena) :
      Gives before after (some (handle, object.kind))

theorem Gives.ofSame (same : last.registry = session.registry) : Gives session last none :=
  .nothing fun _ _ _ stored => same ▸ stored

theorem register_gives {reply : Except Fault Handle} (wellFormed : session.registry.arena.WellFormed)
    (same : prepared.registry = session.registry)
    (registered : prepared.register object = (reply, last)) :
    Gives session last (reply.toOption.map fun handle => (handle, object.kind)) := by
  cases reply with
  | error fault =>
      obtain ⟨-, rfl⟩ := register_error registered
      exact .ofSame same
  | ok handle =>
      have filled := register_filled (same ▸ wellFormed) registered
      rw [same] at filled
      exact .anew handle object filled

theorem submitWithOptions_gives {payload : Bytes} {options : SubmitOptions}
    {reply : Except Fault Handle} (wellFormed : session.registry.arena.WellFormed)
    (answered : session.submitWithOptions ledger handle payload options = (reply, last)) :
    Gives session last (reply.toOption.map fun handle => (handle, .submission)) := by
  unfold submitWithOptions at answered
  cases found : session.registry.signer handle with
  | error e =>
      rw [found] at answered
      cases answered
      exact .ofSame rfl
  | ok signer =>
      have files := session.docket.submit_files ledger signer payload options
      cases submitted : session.docket.submit ledger signer payload options with
      | mk result rest =>
          simp only [found, submitted] at answered files
          cases result with
          | error fault =>
              obtain ⟨rfl, rfl⟩ := Prod.mk.inj answered
              exact .ofSame files.1
          | ok number =>
              have same : Session.registry { session with docket := rest.2 } = session.registry :=
                files.1
              exact register_gives wellFormed same answered

theorem transactionReceipt_gives {cancelAt : Option Nat} {reply : Except Fault Handle}
    (wellFormed : session.registry.arena.WellFormed)
    (answered : session.transactionReceipt ledger handle cancelAt = (reply, last)) :
    Gives session last (reply.toOption.map fun handle => (handle, .receipt)) := by
  unfold transactionReceipt at answered
  cases named : session.registry.submission handle with
  | error e =>
      rw [named] at answered
      cases answered
      exact .ofSame rfl
  | ok number =>
      have resolution := session.docket.resolve_resolution ledger number cancelAt
      cases resolved : session.docket.resolve ledger number cancelAt with
      | mk result rest =>
          simp only [named, resolved, Prod.mk.injEq] at answered resolution
          obtain ⟨ms, docket⟩ := rest
          obtain ⟨rfl, rfl⟩ := answered
          cases resolution with
          | unknown | failed | postponed => exact .ofSame rfl
          | settled found outcome stored settled =>
              cases outcome with
              | error e => exact .ofSame rfl
              | ok receipt =>
                  obtain ⟨-, record, held⟩ := Docket.outcome?_eq_receipt settled
                  exact .again receipt (.receipt record) held rfl
          | published found world record receipt registry stored sent registered =>
              have placed := Registry.register_ok wellFormed registered
              exact .anew receipt (.receipt record) (placed.filled wellFormed)

/-- What is asked of the registry adds nothing to it unless it gives out a handle. -/
theorem moves_gives {event : Registry.Event} (wellFormed : session.registry.arena.WellFormed)
    (moves : session.registry.Moves event last.registry) (nothing : event.issued? = none) :
    Gives session last none := by
  refine .nothing fun handle object word stored => ?_
  obtain ⟨registry, same⟩ : ∃ registry, last.registry = registry := ⟨_, rfl⟩
  rw [same] at moves stored
  cases moves with
  | registered => cases nothing
  | kept => exact stored
  | @released _ released _ _ otherWord _ _ held taken =>
      have emptied := taken.emptied wellFormed held
      by_cases gone : handle = released
      · rw [gone, emptied.get?_self] at stored
        cases stored
      · rwa [emptied.get?_of_ne otherWord word gone] at stored

theorem releaseKind_gives {word : Int32} {result : Except Fault Object} {left : Session σ}
    (wellFormed : session.registry.arena.WellFormed)
    (answered : session.releaseKind (.ofWord word) kind = (result, left))
    (same : last.registry = left.registry) : Gives session last none := by
  have moves := Registry.answer_moves wellFormed (.releaseKind word kind)
  obtain ⟨-, rfl⟩ := Prod.mk.inj answered
  have moved : last.registry = (session.registry.answer (.releaseKind word kind)).2 := same
  rw [← moved] at moves
  exact moves_gives wellFormed moves rfl

theorem answer_gives {before after : Session σ} {request : Request σ} {reply : request.Reply}
    (wellFormed : before.registry.arena.WellFormed)
    (answered : before.answer ledger request = (reply, after)) :
    Gives before after (Turn.given? ⟨before, request, reply, after⟩) := by
  cases request with
  | initializeSigner seed =>
      simp only [answer, initializeSigner] at answered
      cases derived : Seed.derive seed with
      | error e =>
          rw [derived] at answered
          cases answered
          exact .ofSame rfl
      | ok signer =>
          rw [derived] at answered
          have gives := register_gives wellFormed rfl answered
          cases reply <;> exact gives
  | submitData word payload appId =>
      simp only [answer, submitData] at answered
      split at answered
      · cases answered
        exact .ofSame rfl
      · have gives := submitWithOptions_gives wellFormed answered
        cases reply <;> exact gives
  | submitWithOptions word payload options =>
      have gives := submitWithOptions_gives wellFormed answered
      cases reply <;> exact gives
  | transactionReceipt word cancelAt =>
      have gives := transactionReceipt_gives wellFormed answered
      cases reply <;> exact gives
  | releaseSigner word =>
      obtain ⟨-, rfl⟩ := Prod.mk.inj answered
      exact releaseKind_gives wellFormed rfl rfl
  | releaseReceipt word =>
      obtain ⟨-, rfl⟩ := Prod.mk.inj answered
      exact releaseKind_gives wellFormed rfl rfl
  | releaseSubmission word =>
      cases released : before.releaseKind (.ofWord word) .submission with
      | mk result left =>
          simp only [answer, releaseSubmission, released] at answered
          split at answered
          · next again =>
              cases again
              obtain ⟨-, rfl⟩ := Prod.mk.inj answered
              exact releaseKind_gives wellFormed released rfl
          · next again =>
              cases again
              obtain ⟨-, rfl⟩ := Prod.mk.inj answered
              exact releaseKind_gives wellFormed released rfl
  | registry request =>
      have moves := Registry.answer_moves wellFormed request
      cases request with
      | register object =>
          cases registered : before.registry.register object with
          | mk result registry =>
              simp only [answer, Registry.answer, registered] at answered
              obtain ⟨rfl, rfl⟩ := Prod.mk.inj answered
              cases result with
              | error e => exact .ofSame (Registry.register_error registered).1
              | ok handle =>
                  have placed := Registry.register_ok wellFormed registered
                  exact .anew handle object (placed.filled wellFormed)
      | resolve | signer | submission | receipt | release | releaseKind =>
          obtain ⟨-, rfl⟩ := Prod.mk.inj answered
          exact moves_gives wellFormed moves rfl
  | cancelSubmission word =>
      simp only [answer, cancelSubmission] at answered
      split at answered <;> cases answered <;> exact .ofSame rfl
  | receiptNew word =>
      simp only [answer, receiptNew] at answered
      split at answered <;> cases answered <;> exact .ofSame rfl
  | receiptFree address =>
      obtain ⟨rfl, rfl⟩ := Prod.mk.inj answered
      exact .ofSame rfl
  | signMessage | submission | receipt | record | ledger =>
      obtain ⟨-, rfl⟩ := Prod.mk.inj answered
      exact .ofSame rfl

theorem Gives.stored (gives : Gives session last (some (handle, kind))) :
    ∃ object, last.registry.arena.get? handle = some object ∧ object.kind = kind := by
  cases gives with
  | again _ object stored same => exact ⟨object, same ▸ stored, rfl⟩
  | anew _ object filled => exact ⟨object, filled.get?_self, rfl⟩

theorem Gives.origin {given : Option (Handle × Kind)} (gives : Gives session last given)
    (word : handle.IsWord) (stored : last.registry.arena.get? handle = some object) :
    session.registry.arena.get? handle = some object ∨ given = some (handle, object.kind) := by
  cases gives with
  | nothing kept => exact .inl (kept handle object word stored)
  | again other found held same =>
      rw [same] at stored
      exact .inl stored
  | anew other found filled =>
      by_cases same : handle = other
      · subst same
        rw [filled.get?_self] at stored
        cases stored
        exact .inr rfl
      · rw [filled.get?_of_ne word same] at stored
        exact .inl stored

theorem issued?_of_given? (given : turn.given? = some (handle, kind)) :
    turn.issued? = some handle := by
  unfold Turn.given? at given
  split at given <;> cases given <;> rfl

theorem Turns.eq_of_nil (happened : Turns ledger session [] last) : last = session := by
  cases happened
  rfl

/-- What is live stands in the table. -/
theorem Turns.stored_of_live (happened : Turns ledger session turns last) (sound : session.Sound)
    (word : handle.IsWord) (live : Live turns handle kind) :
    ∃ object, last.registry.arena.get? handle = some object ∧ object.kind = kind := by
  obtain ⟨earlier, turn, later, rfl, given, unreleased⟩ := live
  obtain ⟨middle, before, now⟩ := happened.split
  cases now with
  | cons _ answered goesOn =>
      have soundThere := before.sound sound
      have soundAfter := (shifts_of_answered soundThere answered).sound soundThere
      have gives := answer_gives soundThere.wellFormed answered
      have spent := issued_spent soundThere answered (issued?_of_given? given)
      rw [goesOn.get?_kept soundAfter word spent unreleased]
      exact (given ▸ gives).stored

/-- What stands in the table was there from the start, or is live. -/
theorem Turns.live_of_stored (happened : Turns ledger session turns last) (sound : session.Sound)
    (word : handle.IsWord) (empty : session.registry.arena.get? handle = none)
    (stored : last.registry.arena.get? handle = some object) : Live turns handle object.kind := by
  induction turns using List.reverseRecOn generalizing last object with
  | nil =>
      cases happened
      rw [empty] at stored
      cases stored
  | append_singleton earlier turn ih =>
      obtain ⟨middle, before, now⟩ := happened.split
      cases now with
      | cons _ answered goesOn =>
          obtain rfl := goesOn.eq_of_nil
          have soundThere := before.sound sound
          have shifts := shifts_of_answered soundThere answered
          have gives := answer_gives soundThere.wellFormed answered
          obtain there | given := gives.origin word stored
          · obtain ⟨start, giving, later, rfl, given, unreleased⟩ := ih before there
            refine ⟨start, giving, later ++ [turn], by simp, given, ?_⟩
            intro releasing member released
            obtain earlier | same := List.mem_append.mp member
            · exact unreleased releasing earlier released
            · rw [List.mem_singleton.mp same] at released
              rw [shifts.get?_released soundThere.wellFormed released] at stored
              cases stored
          · exact ⟨earlier, turn, [], rfl, given, by simp⟩

theorem opened_vacant (endpoint : String) (tracker : Tracker) (capacity : Nat) (state : σ)
    (handle : Handle) :
    (opened endpoint tracker capacity state).registry.arena.get? handle = none := by
  rw [Option.eq_none_iff_forall_ne_some]
  intro object stored
  simp [opened, registry, Docket.opened, Registry.withCapacity, Arena.withCapacity,
    Arena.get?_eq_some] at stored

/-- In every state that a session reaches, the handles of live objects are those that it gave out and
that were not released since. A request about any other number, or about an object of another kind,
fails with that number, asks the ledger nothing and leaves the session as it is. -/
theorem bad_handles_change_nothing (ledger : Ledger σ) (endpoint : String) (tracker : Tracker)
    (capacity : Nat) (state : σ) (requests : List (Request σ)) (word : Int32) (kind : Kind) :
    let (turns, session) := (opened endpoint tracker capacity state).run ledger requests
    (Live turns (.ofWord word) kind ↔
      ∃ object, session.registry.resolve (.ofWord word) = .ok object ∧ object.kind = kind) ∧
    (¬ Live turns (.ofWord word) kind → ∀ request : Request σ,
      request.handle? = some (word, kind) → session.Refuses request (request.refusal word)) := by
  have happened := run_turns ledger (opened endpoint tracker capacity state) requests
  have sound := opened_sound endpoint tracker capacity state
  have isWord := Handle.ofWord_isWord word
  have empty : (opened endpoint tracker capacity state).registry.arena.get? (.ofWord word) = none :=
    opened_vacant endpoint tracker capacity state (.ofWord word)
  refine ⟨⟨fun live => ?_, fun held => ?_⟩, fun dead request named => ?_⟩
  · obtain ⟨object, stored, same⟩ := happened.stored_of_live sound isWord live
    exact ⟨object, Registry.resolve_eq_ok.mpr stored, same⟩
  · obtain ⟨object, resolved, rfl⟩ := held
    exact happened.live_of_stored sound isWord empty (Registry.resolve_eq_ok.mp resolved)
  · refine refuses_of_lacks named fun object stored same => ?_
    exact dead (same ▸ happened.live_of_stored sound isWord empty stored)

end Session

end Notary
