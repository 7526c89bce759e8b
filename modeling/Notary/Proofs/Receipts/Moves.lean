import Notary.Proofs.Receipts.Bureau
import Notary.Proofs.Session.Preservation

namespace Notary

/-!
What an act can do to a bureau: to its session, which every act moves along the same lines, and to its
errands, of which it moves one at most.
-/

/-- What stands under a handle that has been given out stays there, or is released for good. -/
structure Registry.Retains (registry after : Registry) : Prop where
  wellFormed : after.arena.WellFormed
  spent : ∀ handle, registry.arena.Spent handle → after.arena.Spent handle
  stays : ∀ handle : Handle, handle.IsWord → registry.arena.Spent handle →
    after.arena.get? handle = registry.arena.get? handle ∨ after.arena.get? handle = none

theorem Registry.Retains.refl {registry : Registry} (wellFormed : registry.arena.WellFormed) :
    registry.Retains registry :=
  ⟨wellFormed, fun _ spent => spent, fun _ _ _ => .inl rfl⟩

theorem Registry.Moves.retains {registry after : Registry} {event : Registry.Event}
    (moves : registry.Moves event after) (wellFormed : registry.arena.WellFormed) :
    registry.Retains after where
  wellFormed := moves.wellFormed wellFormed
  spent := fun _ => moves.spent_mono wellFormed
  stays := by
    intro handle word spent
    by_cases released : event.released? = some handle
    · exact .inr (moves.get?_released wellFormed released)
    · exact .inl (moves.get?_kept wellFormed word spent released)

theorem Session.Shifts.retains {σ : Type} {session after : Session σ} {released : Option Handle}
    (shifts : Session.Shifts session after released)
    (wellFormed : session.registry.arena.WellFormed) : session.registry.Retains after.registry := by
  cases shifts with
  | still same =>
      rw [same]
      exact .refl wellFormed
  | moved event moves => exact moves.retains wellFormed

/-- A record under a handle that has been given out for it. -/
structure Registry.Publishes (registry : Registry) (receipt : Handle) (record : FinalityRecord) :
    Prop where
  word : receipt.IsWord
  spent : registry.arena.Spent receipt
  held : registry.arena.get? receipt = some (.receipt record)

namespace Bureau

variable {bureau after : Bureau} {event : Event}

/-- What every act keeps. The cases stay, and a case is settled with a receipt only where the act
answers with it. -/
structure Frame (bureau : Bureau) (event : Event) (after : Bureau) : Prop where
  tracker : after.tracker = bureau.tracker
  registry : bureau.session.registry.Retains after.session.registry
  follows : bureau.chain.Follows after.chain
  kept : ∀ (number : Nat) (found : Submission.Case), bureau.cases[number]? = some found →
    ∃ later, after.cases[number]? = some later ∧ later.submission = found.submission
  finalized : ∀ (number : Nat) (later : Submission.Case) (receipt : Handle),
    after.cases[number]? = some later → later.state = .finalized receipt →
      (∃ found, bureau.cases[number]? = some found ∧ found.submission = later.submission ∧
        found.state = .finalized receipt) ∨ event = .resolved number (.ok receipt)

/-! The cases of a session whose cases were filed, cancelled or settled. -/

theorem Frame.ofCases (tracker : after.tracker = bureau.tracker)
    (registry : bureau.session.registry.Retains after.session.registry)
    (follows : bureau.chain.Follows after.chain) (cases : after.cases = bureau.cases) :
    Frame bureau event after where
  tracker := tracker
  registry := registry
  follows := follows
  kept := by
    intro number found stored
    exact ⟨found, cases ▸ stored, rfl⟩
  finalized := by
    intro number later receipt stored state
    exact .inl ⟨later, cases ▸ stored, rfl, state⟩

theorem Frame.refl (wellFormed : bureau.session.registry.arena.WellFormed) :
    Frame bureau event bureau :=
  .ofCases rfl (.refl wellFormed) (Chain.follows_refl _) rfl

theorem Frame.ofCancel (number : Nat) (tracker : after.tracker = bureau.tracker)
    (registry : bureau.session.registry.Retains after.session.registry)
    (follows : bureau.chain.Follows after.chain)
    (cases : after.cases = (bureau.docket.cancel number).cases) :
    Frame bureau event after where
  tracker := tracker
  registry := registry
  follows := follows
  kept := by
    intro other found stored
    have here : bureau.docket.cases[other]? = some found := stored
    rw [cases, Docket.cancel, Array.getElem?_modify, here]
    split <;> exact ⟨_, rfl, rfl⟩
  finalized := by
    intro other later receipt stored state
    rw [cases, Docket.cancel, Array.getElem?_modify] at stored
    split at stored
    · obtain ⟨found, here, rfl⟩ := Option.map_eq_some_iff.mp stored
      exact .inl ⟨found, here, rfl, state⟩
    · exact .inl ⟨later, stored, rfl, state⟩

theorem Frame.ofFile (submission : Submission) (tracker : after.tracker = bureau.tracker)
    (registry : bureau.session.registry.Retains after.session.registry)
    (follows : bureau.chain.Follows after.chain)
    (cases : after.cases = bureau.cases.push (Submission.opened submission)) :
    Frame bureau event after where
  tracker := tracker
  registry := registry
  follows := follows
  kept := by
    intro number found stored
    have inside := (Array.getElem?_eq_some_iff.mp stored).1
    refine ⟨found, ?_, rfl⟩
    rw [cases, Array.getElem?_push, if_neg (by omega), stored]
  finalized := by
    intro number later receipt stored state
    rw [cases, Array.getElem?_push] at stored
    split at stored
    · cases stored
      cases state
    · exact .inl ⟨later, stored, rfl, state⟩

end Bureau

theorem World.serve_follows [Chain.Surroundings] (world : World Chain) (step : Step) :
    world.ledger.Follows (world.serve Chain.ledger step).2.ledger := by
  cases step with
  | ask call => exact Chain.answer_follows call world.ledger
  | reserve | release | pause | draw | note => exact Chain.follows_refl _

/-- What settling a case by the result of its wait does to the docket. -/
structure Docket.Settles (docket : Docket Chain) (number : Nat)
    (result : Except Fault FinalityRecord) (answer : Except Fault Handle) (after : Docket Chain) :
    Prop where
  tracker : after.tracker = docket.tracker
  ledger : after.world.ledger = docket.world.ledger
  registry : docket.registry.Retains after.registry
  published : ∀ receipt, answer = .ok receipt → ∃ record, result = .ok record ∧
    after.registry.Publishes receipt record
  cases : after.cases = docket.cases ∨ ∃ state, after.cases = (docket.setState number state).cases ∧
    ∀ receipt, state = .finalized receipt → answer = .ok receipt

theorem Docket.settle_settles {docket : Docket Chain}
    (wellFormed : docket.registry.arena.WellFormed) (number : Nat)
    (result : Except Fault FinalityRecord) :
    docket.Settles number result (docket.settle number result).1
      (docket.settle number result).2 := by
  unfold settle
  rcases result with (e | message) | record
  · simp only
    split
    · exact ⟨rfl, rfl, .refl wellFormed, fun receipt => nofun, .inr ⟨_, rfl, fun receipt => nofun⟩⟩
    · exact ⟨rfl, rfl, .refl wellFormed, fun receipt => nofun, .inl rfl⟩
  · exact ⟨rfl, rfl, .refl wellFormed, fun receipt => nofun, .inl rfl⟩
  · cases registered : docket.registry.register (.receipt record) with
    | mk outcome registry =>
        cases outcome with
        | error e =>
            -- Without room for a receipt the case stays as it was, and can be resolved again.
            obtain ⟨rfl, rfl⟩ := Registry.register_error registered
            simp only [registered]
            exact ⟨rfl, rfl, .refl wellFormed, fun receipt => nofun, .inl rfl⟩
        | ok receipt =>
            have placed := Registry.register_ok wellFormed registered
            have filled := placed.filled wellFormed
            have moves : docket.registry.Moves ⟨.register (.receipt record), .ok receipt⟩ registry :=
              .registered placed
            simp only [registered]
            refine ⟨rfl, rfl, moves.retains wellFormed, ?_, .inr ⟨_, rfl, ?_⟩⟩
            · intro given same
              cases same
              exact ⟨record, rfl, filled.word, filled.spent, filled.get?_self⟩
            · intro given same
              cases same
              rfl

namespace Bureau

variable {bureau : Bureau} {number : Nat} {errand : Errand}

theorem Frame.ofSettle {result : Except Fault FinalityRecord} {answer : Except Fault Handle}
    {docket after : Docket Chain} (settles : docket.Settles number result answer after)
    (registry : docket.registry = bureau.session.registry)
    (cases : docket.cases = bureau.cases) (tracker : docket.tracker = bureau.tracker)
    (ledger : docket.world.ledger = bureau.chain) (errands : List Errand) :
    Frame bureau (.resolved number answer) ⟨(bureau.withDocket after).session, errands⟩ where
  tracker := settles.tracker.trans tracker
  registry := registry ▸ settles.registry
  follows := by
    have same : after.world.ledger = bureau.chain := settles.ledger.trans ledger
    change bureau.chain.Follows after.world.ledger
    rw [same]
    exact Chain.follows_refl _
  kept := by
    intro other found stored
    rw [← cases] at stored
    change ∃ later, after.cases[other]? = some later ∧ _
    obtain same | ⟨state, modified, -⟩ := settles.cases
    · exact ⟨found, same ▸ stored, rfl⟩
    · rw [modified, Docket.setState, Array.getElem?_modify, stored]
      split <;> exact ⟨_, rfl, rfl⟩
  finalized := by
    intro other later receipt stored finalized
    change after.cases[other]? = some later at stored
    rw [← cases]
    obtain same | ⟨state, modified, given⟩ := settles.cases
    · exact .inl ⟨later, same ▸ stored, rfl, finalized⟩
    · rw [modified, Docket.setState, Array.getElem?_modify] at stored
      split at stored
      · next here =>
          obtain ⟨found, old, rfl⟩ := Option.map_eq_some_iff.mp stored
          subst here
          exact .inr (by rw [given receipt finalized])
      · exact .inl ⟨later, stored, rfl, finalized⟩

theorem file_frame (wellFormed : bureau.session.registry.arena.WellFormed) (number : Nat)
    (submission : Submission) : Frame bureau .quiet (bureau.file number submission .filed) := by
  have registered := Registry.answer_moves wellFormed (.register (.submission bureau.cases.size))
  exact .ofFile submission rfl (registered.retains wellFormed) (Chain.follows_refl _) rfl

/-! What an act does to the errands. -/

variable [Chain.Surroundings]

/-- What becomes of an errand in a step of its own. -/
inductive Becomes (bureau : Bureau) (errand : Nat) : Event → Bureau → Errand → Errand → Prop where
  | sends {step : Step} {next : step.Reply → Program (Except Fault Submission)}
      {reply : step.Reply} {after : Bureau}
      (served : bureau.docket.world.serve Chain.ledger step =
        (reply, after.docket.world)) :
      Becomes bureau errand (.served ⟨errand, step, reply⟩) after (.submitting (.step step next))
        (.submitting (next reply))
  | waits {number : Nat} {step : Step} {next : step.Reply → Program (Except Fault FinalityRecord)}
      {reply : step.Reply} {after : Bureau}
      (served : bureau.docket.world.serve Chain.ledger step =
        (reply, after.docket.world)) :
      Becomes bureau errand (.served ⟨errand, step, reply⟩) after
        (.resolving number (.step step next)) (.resolving number (next reply))
  | files {submission : Submission} {after : Bureau}
      (stored : after.cases[bureau.cases.size]? = some (Submission.opened submission)) :
      Becomes bureau errand .quiet after (.submitting (.done (.ok submission)))
        (.filed bureau.cases.size)
  | fails {fault : Fault} {after : Bureau} :
      Becomes bureau errand .quiet after (.submitting (.done (.error fault))) .ended
  | breaks {number : Nat} {rest : Program (Except Fault FinalityRecord)} {fault : Fault}
      {after : Bureau} :
      Becomes bureau errand .quiet after (.resolving number rest)
        (.resolving number (.done (.error fault)))
  | settles {number : Nat} {result : Except Fault FinalityRecord} {answer : Except Fault Handle}
      {after : Bureau}
      (published : ∀ receipt, answer = .ok receipt → ∃ record, result = .ok record ∧
        after.session.registry.Publishes receipt record) :
      Becomes bureau errand (.resolved number answer) after (.resolving number (.done result)) .ended

/-- An errand as it begins. -/
inductive Begins (bureau : Bureau) : Errand → Prop where
  | submitting (signer : Signer) (payload : Bytes) (options : SubmitOptions) :
      Begins bureau (.submitting (bureau.tracker.submit signer payload options).run)
  | resolving (number : Nat) (found : Submission.Case)
      (stored : bureau.cases[number]? = some found) :
      Begins bureau (.resolving number (waitFor bureau.tracker found))

/-- What an act does to the errands. -/
inductive Moves (bureau : Bureau) : Event → Bureau → Prop where
  | quiet {after : Bureau} (errands : after.errands = bureau.errands) : Moves bureau .quiet after
  | answered {number : Nat} {answer : Except Fault Handle}
      (settled : ∀ receipt, answer = .ok receipt → ∃ found record,
        bureau.cases[number]? = some found ∧ found.state = .finalized receipt ∧
          bureau.session.registry.arena.get? receipt = some (.receipt record)) :
      Moves bureau (.resolved number answer) bureau
  | began {errand : Errand} (begins : Begins bureau errand) : Moves bureau .quiet (bureau.add errand)
  | stepped {event : Event} {after : Bureau} {number : Nat} {errand next : Errand}
      (here : bureau.errands[number]? = some errand)
      (becomes : Becomes bureau number event after errand next)
      (errands : after.errands = bureau.errands.set number next) : Moves bureau event after

variable (wellFormed : bureau.session.registry.arena.WellFormed)

include wellFormed

theorem resolve_moves (number : Nat) :
    Frame bureau (bureau.resolve number).1 (bureau.resolve number).2 ∧
      Moves bureau (bureau.resolve number).1 (bureau.resolve number).2 := by
  unfold resolve
  cases stored : bureau.docket.cases[number]? with
  | none =>
      simp only [Docket.find, stored]
      exact ⟨.refl wellFormed, .answered fun receipt same => by cases same⟩
  | some found =>
      simp only [Docket.find, stored]
      cases settled : bureau.docket.outcome? found with
      | some outcome =>
          refine ⟨.refl wellFormed, .answered fun receipt same => ?_⟩
          cases outcome with
          | error e => cases same
          | ok other =>
              cases same
              obtain ⟨state, record, held⟩ := Docket.outcome?_eq_receipt settled
              exact ⟨found, record, stored, state, held⟩
      | none =>
          simp only
          split
          · exact ⟨.refl wellFormed, .quiet rfl⟩
          · exact ⟨.ofCases rfl (.refl wellFormed) (Chain.follows_refl _) rfl,
              .began (.resolving number found stored)⟩

theorem serve_frame (number : Nat) (step : Step) (next : step.Reply → Errand) :
    Frame bureau (bureau.serve number step next).1 (bureau.serve number step next).2 :=
  .ofCases rfl (.refl wellFormed) (World.serve_follows _ step) rfl

theorem advance_moves (number : Nat) :
    Frame bureau (bureau.advance number).1 (bureau.advance number).2 ∧
      Moves bureau (bureau.advance number).1 (bureau.advance number).2 := by
  unfold advance
  cases here : bureau.errands[number]? with
  | none => exact ⟨.refl wellFormed, .quiet rfl⟩
  | some errand =>
      cases errand with
      | filed | ended => exact ⟨.refl wellFormed, .quiet rfl⟩
      | submitting rest =>
          cases rest with
          | step step next =>
              exact ⟨serve_frame wellFormed number step _, .stepped here (.sends rfl) rfl⟩
          | done result =>
              cases result with
              | error fault =>
                  exact ⟨.ofCases rfl (.refl wellFormed) (Chain.follows_refl _) rfl,
                    .stepped here .fails rfl⟩
              | ok submission =>
                  exact ⟨file_frame wellFormed number submission,
                    .stepped here (.files Array.getElem?_push_size) rfl⟩
      | resolving other rest =>
          cases rest with
          | step step next =>
              exact ⟨serve_frame wellFormed number step _, .stepped here (.waits rfl) rfl⟩
          | done result =>
              have noted : (bureau.docket.noted result).registry.arena.WellFormed := wellFormed
              have settles := Docket.settle_settles noted other result
              exact ⟨.ofSettle settles rfl rfl rfl rfl _, .stepped here (.settles settles.published) rfl⟩

theorem interrupt_moves (number : Nat) (cancelled : Bool) :
    Frame bureau .quiet (bureau.interrupt number cancelled) ∧
      Moves bureau .quiet (bureau.interrupt number cancelled) := by
  unfold interrupt
  split
  · next other step next here =>
      exact ⟨.ofCases rfl (.refl wellFormed) (Chain.follows_refl _) rfl, .stepped here .breaks rfl⟩
  · exact ⟨.refl wellFormed, .quiet rfl⟩

theorem request_moves (request : Session.Request Chain) :
    Frame bureau .quiet (bureau.request Chain.ledger request) ∧
      Moves bureau .quiet (bureau.request Chain.ledger request) := by
  obtain ⟨quick, answered⟩ | idle := Desk.request_cases request
  · obtain ⟨tracker, world, cases⟩ := Session.answer_quick Chain.ledger quick
    have shifts := Session.answer_shifts wellFormed Chain.ledger request
    have follows : bureau.chain.Follows
        (bureau.session.answer Chain.ledger request).2.docket.world.ledger := by
      rw [world]
      exact Chain.follows_refl _
    rw [answered]
    refine ⟨?_, .quiet rfl⟩
    obtain cases | ⟨number, cases⟩ := cases
    · exact .ofCases tracker (shifts.retains wellFormed) follows cases
    · exact .ofCancel number tracker (shifts.retains wellFormed) follows cases
  · rw [idle]
    exact ⟨.refl wellFormed, .quiet rfl⟩

/-- Every act moves the session along its lines, and one errand at most. -/
theorem act_moves (act : Act) :
    Frame bureau (bureau.act act).1 (bureau.act act).2 ∧
      Moves bureau (bureau.act act).1 (bureau.act act).2 := by
  cases act with
  | submit word payload options =>
      simp only [Bureau.act]
      cases bureau.session.registry.signer (.ofWord word) with
      | error e => exact ⟨.refl wellFormed, .quiet rfl⟩
      | ok signer =>
          exact ⟨.ofCases rfl (.refl wellFormed) (Chain.follows_refl _) rfl,
            .began (.submitting signer payload options)⟩
  | resolve word =>
      simp only [Bureau.act]
      cases bureau.session.registry.submission (.ofWord word) with
      | error e => exact ⟨.refl wellFormed, .quiet rfl⟩
      | ok number => exact resolve_moves wellFormed number
  | advance number => exact advance_moves wellFormed number
  | interrupt number cancelled => exact interrupt_moves wellFormed number cancelled
  | request request => exact request_moves wellFormed request
  | control control =>
      exact ⟨.ofCases rfl (.refl wellFormed) (Chain.control_follows control _) rfl, .quiet rfl⟩
  | call call => exact ⟨.ofCases rfl (.refl wellFormed) (Chain.answer_follows call _) rfl, .quiet rfl⟩

end Bureau

end Notary
