import Notary.Proofs.Delivery.Sending
import Notary.Proofs.Session.Preservation

namespace Notary

/-!
Submitting through a session over the ledger in memory. Either the case is filed, its handle given out
and its transaction taken; or the registry is full and the transaction is taken all the same; or
neither the registry nor the ledger has anything to show of the attempt.
-/

theorem Registry.submission_of_get? {registry : Registry} {handle : Handle} {number : Nat}
    (stored : registry.arena.get? handle = some (.submission number)) :
    registry.submission handle = .ok number := by
  rw [submission, resolve_eq_ok.mpr stored]
  rfl

/-- A submission that the world serves to its end is filed, and its handle is given out if there is room. -/
theorem Session.submitWithOptions_of_takes {σ : Type} {ledger : Ledger σ} {session : Session σ}
    {handle : Handle} {signer : Signer} {payload : Bytes} {options : SubmitOptions}
    {exchanges : List Exchange} {submission : Submission} {after : World σ}
    (named : session.registry.signer handle = .ok signer)
    (takes : (session.docket.tracker.submit signer payload options).Takes exchanges (.ok submission))
    (serves : session.docket.world.Serves ledger exchanges after) :
    session.submitWithOptions ledger handle payload options =
      Session.register
        { session with docket := ({ session.docket with world := after }.file submission).2 }
        (.submission session.docket.cases.size) := by
  obtain ⟨ended, left⟩ := takes.alone serves 0
  rcases ran : Program.runAll ledger (session.docket.tracker.submit signer payload options).run 0
    session.docket.world with ⟨outcome, ms, world⟩
  rw [ran] at ended left
  subst ended left
  simp only [submitWithOptions, named, Docket.submit, Docket.perform, ran]
  rfl

namespace Docket

variable {docket after : Docket Chain} {signer : Signer} {payload : Bytes} {options : SubmitOptions}
  {ms : Nat} [Chain.Surroundings]

theorem perform_submit_ends {result : Except Fault Submission} (distinct : docket.world.ledger.Distinct)
    (frank : docket.world.ledger.Frank)
    (performed : docket.perform Chain.ledger (docket.tracker.submit signer payload options) =
      (result, ms, after)) :
    Tracker.Ends docket.world.ledger Tracker.Refuses (fun submission world =>
      docket.tracker.Carries signer payload options submission world.ledger world.book) result
      after.world := by
  have leads : Task.Leads Chain.ledger (Tracker.Unmoved docket.world.ledger) _
      (docket.tracker.submit signer payload options) := Tracker.submit_ends distinct frank
  obtain ⟨rfl, rest⟩ := Prod.mk.inj performed
  obtain ⟨-, rfl⟩ := Prod.mk.inj rest
  exact leads.runAll 0 docket.world .refl

theorem submit_ok {number : Nat} (distinct : docket.world.ledger.Distinct)
    (frank : docket.world.ledger.Frank)
    (submitted : docket.submit Chain.ledger signer payload options = (.ok number, ms, after)) :
    ∃ submission, after.find number = .ok (Submission.opened submission) ∧
      docket.tracker.Carries signer payload options submission after.world.ledger after.world.book := by
  unfold submit at submitted
  cases performed : docket.perform Chain.ledger (docket.tracker.submit signer payload options) with
  | mk result rest =>
      have ended := perform_submit_ends distinct frank performed
      rw [performed] at submitted
      cases result with
      | error fault => cases submitted
      | ok submission =>
          cases submitted
          refine ⟨submission, ?_, ended⟩
          simp only [find, Array.getElem?_push_size]

theorem submit_failure {e : Error} (distinct : docket.world.ledger.Distinct)
    (frank : docket.world.ledger.Frank)
    (submitted : docket.submit Chain.ledger signer payload options =
      (.error (.failure e), ms, after)) :
    docket.world.ledger.Alike after.world.ledger ∧ Tracker.Refuses e := by
  unfold submit at submitted
  cases performed : docket.perform Chain.ledger (docket.tracker.submit signer payload options) with
  | mk result rest =>
      have ended := perform_submit_ends distinct frank performed
      rw [performed] at submitted
      cases result with
      | error fault =>
          cases submitted
          exact ended
      | ok submission => cases submitted

end Docket

namespace Session

section Issued

variable {σ : Type} {ledger : Ledger σ} {session last : Session σ} {turn : Turn σ}
  {turns : List (Turn σ)} {handle : Handle}

def Turn.issued? : Turn σ → Option Handle
  | ⟨_, .initializeSigner _, .ok handle, _⟩ => some handle
  | ⟨_, .submitData _ _ _, .ok handle, _⟩ => some handle
  | ⟨_, .submitWithOptions _ _ _, .ok handle, _⟩ => some handle
  | ⟨_, .transactionReceipt _ _, .ok handle, _⟩ => some handle
  | ⟨_, .registry request, reply, _⟩ => Registry.Event.issued? ⟨request, reply⟩
  | _ => none

theorem register_ok {object : Object} (registered : session.register object = (.ok handle, last)) :
    ∃ registry, session.registry.register object = (.ok handle, registry) ∧
      last = session.withRegistry registry := by
  unfold register at registered
  cases outcome : session.registry.register object with
  | mk result registry =>
      rw [outcome] at registered
      cases result with
      | error e => cases registered
      | ok given =>
          cases registered
          exact ⟨registry, rfl, rfl⟩

theorem register_error {object : Object} {fault : Fault}
    (refused : session.register object = (.error fault, last)) :
    fault = .failure .registryFull ∧ last = session := by
  unfold register at refused
  cases outcome : session.registry.register object with
  | mk result registry =>
      rw [outcome] at refused
      cases result with
      | ok given => cases refused
      | error e =>
          obtain ⟨rfl, rfl⟩ := Registry.register_error outcome
          cases refused
          exact ⟨rfl, rfl⟩

/-- A handle that was registered was not given out before, and stands for its object. -/
theorem register_filled {object : Object} (wellFormed : session.registry.arena.WellFormed)
    (registered : session.register object = (.ok handle, last)) :
    session.registry.arena.Filled object handle last.registry.arena := by
  obtain ⟨registry, placed, rfl⟩ := register_ok registered
  exact (Registry.register_ok wellFormed placed).filled wellFormed

/-- A submission that was answered with a handle ended with the registration of its case. -/
theorem submitWithOptions_ok {signing : Handle} {payload : Bytes} {options : SubmitOptions}
    (answered : session.submitWithOptions ledger signing payload options = (.ok handle, last)) :
    ∃ (prepared : Session σ) (number : Nat), prepared.registry = session.registry ∧
      prepared.register (.submission number) = (.ok handle, last) := by
  unfold submitWithOptions at answered
  cases found : session.registry.signer signing with
  | error e =>
      rw [found] at answered
      cases answered
  | ok signer =>
      have files := session.docket.submit_files ledger signer payload options
      cases submitted : session.docket.submit ledger signer payload options with
      | mk result rest =>
          simp only [found, submitted] at answered files
          cases result with
          | error fault => cases answered
          | ok number => exact ⟨{ session with docket := rest.2 }, number, files.1, answered⟩

theorem issued_spent (sound : turn.before.Sound)
    (answered : turn.before.answer ledger turn.request = (turn.reply, turn.after))
    (given : turn.issued? = some handle) : turn.after.registry.arena.Spent handle := by
  have soundAfter := (shifts_of_answered sound answered).sound sound
  obtain ⟨before, request, reply, after⟩ := turn
  have submitted {signing : Handle} {payload : Bytes} {options : SubmitOptions}
      (ended : before.submitWithOptions ledger signing payload options = (.ok handle, after)) :
      after.registry.arena.Spent handle := by
    obtain ⟨prepared, number, same, registered⟩ := submitWithOptions_ok ended
    have wellFormed : prepared.registry.arena.WellFormed := same ▸ sound.wellFormed
    exact (register_filled wellFormed registered).spent
  cases request with
  | initializeSigner seed =>
      rcases reply with fault | issued
      · cases given
      · cases given
        simp only [answer, initializeSigner] at answered
        cases derived : Seed.derive seed with
        | error e =>
            rw [derived] at answered
            cases answered
        | ok signer =>
            rw [derived] at answered
            exact (register_filled sound.wellFormed answered).spent
  | submitData word payload appId =>
      rcases reply with fault | issued
      · cases given
      · cases given
        simp only [answer, submitData] at answered
        split at answered
        · cases answered
        · exact submitted answered
  | submitWithOptions word payload options =>
      rcases reply with fault | issued
      · cases given
      · cases given
        exact submitted answered
  | transactionReceipt word cancelAt =>
      rcases reply with fault | issued
      · cases given
      · cases given
        simp only [answer, transactionReceipt] at answered
        cases named : before.registry.submission (.ofWord word) with
        | error e =>
            rw [named] at answered
            cases answered
        | ok number =>
            have resolution := before.docket.resolve_resolution ledger number cancelAt
            simp only [named, Prod.mk.injEq] at answered
            obtain ⟨reply, rfl⟩ := answered
            obtain ⟨found, record, stored, state, -⟩ :=
              resolution.receipt_stands sound.wellFormed reply
            have backed := soundAfter.backed number found stored
            rw [state] at backed
            exact backed.2
  | registry request =>
      have moves := Registry.answer_moves sound.wellFormed request
      simp only [answer, Prod.mk.injEq] at answered
      obtain ⟨rfl, rfl⟩ := answered
      exact (moves.issued sound.wellFormed given).2
  | _ => cases given

theorem Turns.spent_mono (happened : Turns ledger session turns last) (sound : session.Sound)
    (spent : session.registry.arena.Spent handle) : last.registry.arena.Spent handle := by
  induction happened with
  | nil => exact spent
  | cons turn answered goesOn ih =>
      have shifts := shifts_of_answered sound answered
      exact ih (shifts.sound sound) (shifts.spent_mono sound.wellFormed spent)

theorem Turns.spent (happened : Turns ledger session turns last) (sound : session.Sound)
    (given : ∃ turn ∈ turns, turn.issued? = some handle) : last.registry.arena.Spent handle := by
  induction happened with
  | nil => simp at given
  | cons turn answered goesOn ih =>
      have shifts := shifts_of_answered sound answered
      obtain ⟨giving, member, here⟩ := given
      obtain rfl | later := List.mem_cons.mp member
      · exact goesOn.spent_mono (shifts.sound sound) (issued_spent sound answered here)
      · exact ih (shifts.sound sound) ⟨giving, later, here⟩

end Issued

/-- How a submission through a session ends, after the turns that led to the session. -/
inductive Delivery (turns : List (Turn Chain)) (session : Session Chain) (signing : Handle)
    (payload : Bytes) (options : SubmitOptions) : Except Fault Handle → Session Chain → Prop where
  | accepted (signer : Signer) (submission : Submission) (handle : Handle) (after : Session Chain)
      (named : session.registry.signer signing = .ok signer)
      (fresh : ∀ turn ∈ turns, turn.issued? ≠ some handle)
      (filed : after.findCase handle = .ok (Submission.opened submission))
      (carries : session.docket.tracker.Carries signer payload options submission after.state
        after.docket.world.book) :
      Delivery turns session signing payload options (.ok handle) after
  | full (signer : Signer) (submission : Submission) (after : Session Chain)
      (named : session.registry.signer signing = .ok signer)
      (registry : after.registry = session.registry)
      (carries : session.docket.tracker.Carries signer payload options submission after.state
        after.docket.world.book) :
      Delivery turns session signing payload options (.error (.failure .registryFull)) after
  | refused (e : Error) (after : Session Chain) (other : e ≠ .registryFull)
      (registry : after.registry = session.registry)
      (broadcasts : after.state.broadcasts = session.state.broadcasts) :
      Delivery turns session signing payload options (.error (.failure e)) after
  | broken (message : Option String) (after : Session Chain) :
      Delivery turns session signing payload options (.error (.breakdown message)) after

theorem run_requests {σ : Type} (ledger : Ledger σ) (session : Session σ)
    (requests : List (Request σ)) :
    (session.run ledger requests).1.map (·.request) = requests := by
  induction requests generalizing session with
  | nil => rfl
  | cons request rest ih => exact congrArg (request :: ·) (ih _)

theorem submitWithOptions_delivery [Chain.Surroundings] {turns : List (Turn Chain)}
    {session : Session Chain}
    (sound : session.Sound) (distinct : session.state.Distinct) (frank : session.state.Frank)
    (spent : ∀ handle, (∃ turn ∈ turns, turn.issued? = some handle) →
      session.registry.arena.Spent handle)
    (signing : Handle) (payload : Bytes) (options : SubmitOptions) :
    Delivery turns session signing payload options
      (session.submitWithOptions Chain.ledger signing payload options).1
      (session.submitWithOptions Chain.ledger signing payload options).2 := by
  unfold submitWithOptions
  cases named : session.registry.signer signing with
  | error e =>
      obtain rfl := Registry.signer_refused named
      exact .refused _ session nofun rfl rfl
  | ok signer =>
      have files := session.docket.submit_files Chain.ledger signer payload options
      cases submitted : session.docket.submit Chain.ledger signer payload options with
      | mk result rest =>
          obtain ⟨ms, docket⟩ := rest
          simp only [submitted] at files ⊢
          rcases result with (e | message) | number
          · obtain ⟨alike, refuses⟩ := Docket.submit_failure distinct frank submitted
            refine .refused e _ ?_ files.1 alike.1
            rintro rfl
            exact refuses
          · exact .broken message _
          · obtain ⟨submission, filed, carries⟩ := Docket.submit_ok distinct frank submitted
            have prepared : ({ session with docket } : Session Chain).registry = session.registry :=
              files.1
            cases registered :
                ({ session with docket } : Session Chain).register (.submission number) with
            | mk reply after =>
                simp only [registered]
                cases reply with
                | error fault =>
                    obtain ⟨rfl, rfl⟩ := register_error registered
                    exact .full signer submission { session with docket } named prepared carries
                | ok handle =>
                    have filled := register_filled (prepared ▸ sound.wellFormed) registered
                    obtain ⟨registry, -, rfl⟩ := register_ok registered
                    refine .accepted signer submission handle
                      (withRegistry { session with docket } registry) named
                      (fun turn member given => ?_) ?_ carries
                    · rw [prepared] at filled
                      exact filled.unspent (spent handle ⟨turn, member, given⟩)
                    · rw [findCase, Registry.submission_of_get? filled.get?_self]
                      exact filed

/-- Over every run of a session on the ledger in memory, whose reasons for turning transactions away
do not say that they are known: a submission is filed, given out and taken once; or it is taken and
the registry is full; or it fails and leaves the registry and what was taken as they were. -/
theorem submissions_are_all_or_nothing [Chain.Surroundings] (endpoint : String) (tracker : Tracker)
    (capacity lag : Nat) (requests : List (Request Chain)) (word : Int32) (payload : Bytes)
    (options : SubmitOptions)
    (elsewhere : ∀ change, .ledger change ∈ requests → Chain.Elsewhere change)
    (frank : ((opened endpoint tracker capacity (.withLag lag)).run
      Chain.ledger requests).2.state.Frank) :
    let ran := (opened endpoint tracker capacity (.withLag lag)).run Chain.ledger requests
    let answered := ran.2.submitWithOptions Chain.ledger (.ofWord word) payload options
    Delivery ran.1 ran.2 (.ofWord word) payload options answered.1 answered.2 := by
  have happened := run_turns Chain.ledger (opened endpoint tracker capacity (.withLag lag)) requests
  have listed := run_requests Chain.ledger (opened endpoint tracker capacity (.withLag lag)) requests
  have start := opened_sound endpoint tracker capacity (Chain.withLag lag)
  cases ran : (opened endpoint tracker capacity (.withLag lag)).run Chain.ledger requests with
  | mk turns session =>
      rw [ran] at happened listed frank
      have distinct : session.state.Distinct := by
        refine happened.preserves Chain.preserves_distinct (Chain.withLag_distinct lag) ?_
        intro turn member change changes state here
        refine (elsewhere change ?_).distinct here
        rw [← listed, ← changes]
        exact List.mem_map_of_mem member
      exact submitWithOptions_delivery (happened.sound start) distinct frank
        (fun handle given => happened.spent start given) (.ofWord word) payload options

/-- A session over a fresh ledger, with a signer under its first handle. -/
def ready (signer : Signer) : Session Chain :=
  (opened inProcess Tracker.usual 4 (.withLag 2)).withRegistry
    ((Registry.withCapacity 4).register (.signer signer)).2

/-- A signer is registered, and the ledger turns everything away for a time. -/
def interlude (signer : Signer) : List (Request Chain) :=
  [.registry (.register (.signer signer)),
    .ledger fun chain => chain.control (.reject (some "nonce too low")),
    .ledger fun chain => chain.control (.reject none)]

theorem interlude_elsewhere {signer : Signer} {change : Chain → Chain}
    (listed : .ledger change ∈ interlude signer) : Chain.Elsewhere change := by
  simp only [interlude, List.mem_cons, reduceCtorEq, Request.ledger.injEq, List.not_mem_nil,
    or_false, false_or] at listed
  obtain rfl | rfl := listed
  · exact .controlled (.reject (some "nonce too low"))
  · exact .controlled (.reject none)

theorem submission_is_taken :
    let ran := (opened inProcess Tracker.usual 4 (.withLag 2)).run Chain.ledger (interlude default)
    let answered := ran.2.submitWithOptions Chain.ledger (.ofWord 0) [0] ⟨0, none, none⟩
    answered.1 = .ok (.ofWord 1) ∧
      Delivery ran.1 ran.2 (.ofWord 0) [0] ⟨0, none, none⟩ answered.1 answered.2 := by
  -- The address is not to be computed from here on.
  have signed := Tracker.first_letter_signed
  generalize (default : Signer) = signer at signed ⊢
  obtain ⟨letter, done⟩ := signed
  have delivered := submissions_are_all_or_nothing inProcess Tracker.usual 4 2 (interlude signer) 0
    [0] ⟨0, none, none⟩ (fun _ => interlude_elsewhere) (fun _ rejection => nomatch rejection)
  refine ⟨?_, delivered⟩
  have begun : ((opened inProcess Tracker.usual 4 (.withLag 2)).run Chain.ledger (interlude signer)).2 =
      ready signer := rfl
  obtain ⟨after, takes, served⟩ := Tracker.errand_taken done .empty rfl .empty
  have named : (ready signer).registry.signer (.ofWord 0) = .ok signer := rfl
  have handed : (ready signer).submitWithOptions Chain.ledger (.ofWord 0) [0] ⟨0, none, none⟩ = _ :=
    submitWithOptions_of_takes named takes served
  have answered := congrArg
    (fun session => (session.submitWithOptions Chain.ledger (.ofWord 0) [0] ⟨0, none, none⟩).1) begun
  exact answered.trans (congrArg Prod.fst handed)

end Session

end Notary
