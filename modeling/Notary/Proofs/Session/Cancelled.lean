import Notary.Proofs.Registry.Bookkeeping
import Notary.Proofs.Session.Delivery
import Notary.Proofs.Session.Signals

namespace Notary

/-!
Cancelled submissions. A cancel signal is heard by everyone who comes to the case after it, as long as
the case has no outcome; a case that has one does not hear it, and goes on as if it had not been given.
-/

namespace Session

variable {σ : Type}

theorem releaseKind_of_submission {session : Session σ} {handle : Handle} {number : Nat}
    (named : session.registry.submission handle = .ok number) :
    ∃ registry, session.releaseKind handle .submission =
      (.ok (.submission number), session.withRegistry registry) := by
  have resolved : session.registry.resolve handle = .ok (.submission number) := by
    unfold Registry.submission at named
    rcases stands : session.registry.resolve handle with e | (signer | other | record) <;>
      rw [stands] at named <;> cases named
    rfl
  obtain ⟨registry, released⟩ := Registry.release_of_get? (Registry.resolve_eq_ok.mp resolved)
  refine ⟨registry, ?_⟩
  have ofKind := Registry.releaseKind_of_resolve resolved
  simp only [Object.kind] at ofKind
  simp only [releaseKind, ofKind, released]
  rfl

end Session

namespace Hall

variable {σ : Type} {hall : Hall σ} {number : Nat}

namespace Turn

/-- A turn that cancels a case: that of a submission which is cancelled or released. -/
inductive Signals (number : Nat) : Turn σ → Prop where
  | cancel {before after : Hall σ} {word : Int32} {event : Event}
      (named : before.session.registry.submission (.ofWord word) = .ok number) :
      Signals number ⟨before, .request (.cancelSubmission word), event, after⟩
  | release {before after : Hall σ} {word : Int32} {event : Event}
      (named : before.session.registry.submission (.ofWord word) = .ok number) :
      Signals number ⟨before, .request (.releaseSubmission word), event, after⟩

/-- What a turn would leave if the case that it cancels were not cancelled. -/
def unsignalled (turn : Turn σ) : Hall σ :=
  turn.after.withDocket { turn.after.docket with cases := turn.before.docket.cases }

/-- A turn in which a case gets its outcome. -/
def Settles (number : Nat) (turn : Turn σ) : Prop :=
  turn.before.docket.state number = .ok .sent ∧ turn.after.docket.state number ≠ .ok .sent

/-- A turn in which someone who is queued gets its case. -/
structure Grants (index number : Nat) (turn : Turn σ) : Prop where
  act : turn.act = .grant index
  queued : turn.before.errands[index]? = some (.queued number)
  free : number ∉ turn.before.occupied

/-- The turn answers that the case was cancelled, and makes that the outcome of the case. It is the same
over every ledger, and leaves the ledger and the registry as they are. -/
structure Voids (index number : Nat) (turn : Turn σ) : Prop where
  event : turn.event = .answered index number (.error (.failure .cancelled))
  everywhere : ∀ ledger : Ledger σ, turn.before.act ledger turn.act = (turn.event, turn.after)
  ledger : turn.after.session.state = turn.before.session.state
  registry : turn.after.session.registry = turn.before.session.registry
  outcome : turn.after.docket.state number = .ok (.failed .cancelled)

/-- The case stays cancelled, and whoever is answered is told so without anything being asked. -/
structure Recalls (number : Nat) (turn : Turn σ) : Prop where
  outcome : turn.after.docket.state number = .ok (.failed .cancelled)
  answers : ∀ index answer, turn.event = .answered index number answer →
    answer = .error (.failure .cancelled) ∧ turn.after.session = turn.before.session ∧
      ∀ ledger : Ledger σ, turn.before.act ledger turn.act = (turn.event, turn.after)

end Turn

variable {ledger : Ledger σ} {turn : Turn σ}

theorem Turn.Signals.after_eq (signals : turn.Signals number)
    (acted : turn.before.act ledger turn.act = (turn.event, turn.after)) :
    turn.after = turn.unsignalled.signal number := by
  cases signals with
  | cancel named =>
      have left := congrArg Prod.snd acted
      simp only [Hall.act, Hall.request, Desk.request, Session.answer, Session.cancelSubmission,
        named] at left
      subst left
      rfl
  | release named =>
      obtain ⟨registry, released⟩ := Session.releaseKind_of_submission named
      have left := congrArg Prod.snd acted
      simp only [Hall.act, Hall.request, Desk.request, Session.answer, Session.releaseSubmission,
        released] at left
      subst left
      rfl

theorem Turn.Signals.heard (signals : turn.Signals number)
    (acted : turn.before.act ledger turn.act = (turn.event, turn.after))
    (sent : turn.before.docket.state number = .ok .sent) :
    turn.after.docket.state number = .ok .sent ∧ turn.after.docket.signalled number = true := by
  rw [signals.after_eq acted]
  refine ⟨(turn.unsignalled.docket.cancel_state number number).trans sent, ?_⟩
  obtain ⟨found, stored, -⟩ := Docket.state_eq_ok.mp sent
  have there := turn.unsignalled.docket.cancel_getElem? number number
  rw [show turn.unsignalled.docket.cases[number]? = some found from stored] at there
  change (turn.unsignalled.docket.cancel number).signalled number = true
  simp only [Docket.signalled, there, Option.map_some, decide_true, Bool.or_true]

variable {turns : List (Turn σ)} {last : Hall σ} {index : Nat}

theorem Turns.sent (happened : Turns ledger hall turns last)
    (sent : hall.docket.state number = .ok .sent)
    (unsettled : ∀ turn ∈ turns, ¬ turn.Settles number) : last.docket.state number = .ok .sent := by
  induction happened with
  | nil => exact sent
  | cons turn acted goesOn ih =>
      refine ih ?_ fun later member => unsettled later (List.mem_cons_of_mem turn member)
      by_contra settled
      exact unsettled turn List.mem_cons_self ⟨sent, settled⟩

/-- Whoever gets a case that was cancelled while it was open is told so, and that settles it. -/
theorem Turn.Grants.voids (grants : turn.Grants index number)
    (acted : turn.before.act ledger turn.act = (turn.event, turn.after))
    (sent : turn.before.docket.state number = .ok .sent)
    (signal : turn.before.docket.signalled number = true) : turn.Voids index number := by
  obtain ⟨before, act, event, after⟩ := turn
  obtain ⟨rfl, queued, free⟩ := grants
  have everywhere (other : Ledger σ) : before.act other (.grant index) =
      (.answered index number (.error (.failure .cancelled)),
        (before.withDocket (before.docket.voided number)).put index .ended) := by
    simp only [Hall.act, grant, queued, if_neg free, enter, Docket.pending?_of_signalled signal,
      Docket.resolve_of_cancelled other none sent signal]
  obtain ⟨rfl, rfl⟩ := Prod.mk.inj ((everywhere ledger).symm.trans acted)
  obtain ⟨found, stored, -⟩ := Docket.state_eq_ok.mp sent
  exact ⟨rfl, everywhere, rfl, rfl,
    Docket.state_eq_ok.mpr ⟨_, Docket.setState_getElem? stored, rfl⟩⟩

theorem go_event {α : Type} (ledger : Ledger σ) (hall : Hall σ) (index : Nat) (stage : Stage σ α)
    (goesOn : Stage σ α → Errand σ) {other number : Nat} {answer : Except Fault Handle} :
    (hall.go ledger index stage goesOn).1 ≠ .answered other number answer := by
  unfold go
  rcases stage.go ledger hall.docket.world with ⟨_ | call, stage, world⟩ <;> exact nofun

/-- Only who is about to get a case, or has one, is given an answer. -/
theorem answered_cases {act : Act σ} {answer : Except Fault Handle}
    (answered : (hall.act ledger act).1 = .answered index number answer) :
    (act = .grant index ∧ hall.errands[index]? = some (.queued number) ∧ number ∉ hall.occupied) ∨
      number ∈ hall.occupied := by
  cases act with
  | submit word payload options =>
      simp only [Hall.act] at answered
      split at answered <;> cases answered
  | call word =>
      simp only [Hall.act] at answered
      split at answered <;> cases answered
  | callBy other => cases answered
  | grant other =>
      simp only [Hall.act, grant] at answered
      split at answered
      · next here =>
          split at answered
          · cases answered
          · next free =>
              unfold enter at answered
              split at answered
              · cases answered
              · cases answered
                exact .inl ⟨rfl, here, free⟩
      · cases answered
  | advance other =>
      simp only [Hall.act, advance] at answered
      split at answered
      · cases answered
      · exact absurd answered (go_event _ _ _ _ _)
      · next here =>
          cases answered
          exact .inr (mem_occupied here)
      · exact absurd answered (go_event _ _ _ _ _)
      · cases answered
  | interrupt other cancelled =>
      simp only [Hall.act, interrupt] at answered
      split at answered
      · cases answered
      · next here =>
          unfold breakOff at answered
          split at answered <;> cases answered <;> exact .inr (mem_occupied here)
      · cases answered
  | request request => cases answered

/-- Where a case has failed, whoever is answered is told its error, and nothing else happens. -/
theorem answered_of_failed (orderly : turn.before.Orderly) {e : Error}
    (acted : turn.before.act ledger turn.act = (turn.event, turn.after))
    (failed : turn.before.docket.state number = .ok (.failed e)) {answer : Except Fault Handle}
    (answered : turn.event = .answered index number answer) :
    answer = .error (.failure e) ∧ turn.after.session = turn.before.session ∧
      ∀ other : Ledger σ, turn.before.act other turn.act = (turn.event, turn.after) := by
  obtain ⟨before, act, event, after⟩ := turn
  have given : (before.act ledger act).1 = .answered index number answer := acted ▸ answered
  obtain ⟨rfl, queued, free⟩ | had := answered_cases given
  · obtain ⟨found, stored, state⟩ := Docket.state_eq_ok.mp failed
    have idle : before.docket.pending? number = none := by
      simp [Docket.pending?, stored, state]
    have everywhere (other : Ledger σ) : before.act other (.grant index) =
        (.answered index number (.error (.failure e)), before.put index .ended) := by
      simp only [Hall.act, grant, queued, if_neg free, enter, idle,
        Docket.resolve_of_outcome other none stored (Docket.outcome?_failed state)]
      rfl
    obtain ⟨rfl, rfl⟩ := Prod.mk.inj ((everywhere ledger).symm.trans acted)
    cases answered
    exact ⟨rfl, rfl, everywhere⟩
  · -- Who has a case has it while it is open.
    have sent := orderly.sent number had
    cases failed.symm.trans sent

/-- Once a case has been settled by its cancel signal, that is its outcome for good. -/
theorem Turns.recalls (happened : Turns ledger hall turns last) (orderly : hall.Orderly)
    (voided : hall.docket.state number = .ok (.failed .cancelled)) :
    ∀ turn ∈ turns, turn.Recalls number := by
  induction happened with
  | nil => exact fun _ => nofun
  | cons turn acted goesOn ih =>
      obtain ⟨⟨settled, kept⟩, orderlyAfter⟩ := orderly.acted acted
      have outcome := kept.outcome voided nofun
      intro later member
      obtain rfl | member := List.mem_cons.mp member
      · exact ⟨outcome, fun index answer => answered_of_failed orderly acted voided⟩
      · exact ih orderlyAfter outcome later member

/-- Whoever waits for a case that was cancelled can be told so, and gives up the case. -/
theorem holder_gives_up (ledger : Ledger σ) (orderly : hall.Orderly)
    (signal : hall.docket.signalled number = true) (had : number ∈ hall.occupied) :
    ∃ (holder : Nat) (act : Act σ),
      (∃ stage, hall.errands[holder]? = some (.resolving number stage)) ∧
      number ∉ (hall.act ledger act).2.occupied ∧
      ∀ index, index ≠ holder → (hall.act ledger act).2.errands[index]? = hall.errands[index]? := by
  obtain ⟨errand, member, same⟩ := List.mem_filterMap.mp had
  obtain ⟨holder, here⟩ := List.mem_iff_getElem?.mp member
  cases errand with
  | submitting | queued | ended => cases same
  | resolving other stage =>
      cases same
      have gone := (orderly.frees here).2
      have kept (index : Nat) (differs : index ≠ holder) :
          (hall.put holder .ended).errands[index]? = hall.errands[index]? :=
        List.getElem?_set_ne (Ne.symm differs)
      rcases stage with (result | ⟨step, next⟩) | resume
      · refine ⟨holder, .advance holder, ⟨_, here⟩, ?_⟩
        simp only [Hall.act, advance, here]
        exact ⟨gone, kept⟩
      · refine ⟨holder, .interrupt holder true, ⟨_, here⟩, ?_⟩
        simp only [Hall.act, interrupt, here, breakOff, signal]
        exact ⟨gone, kept⟩
      · refine ⟨holder, .interrupt holder true, ⟨_, here⟩, ?_⟩
        simp only [Hall.act, interrupt, here, breakOff, signal]
        exact ⟨gone, kept⟩

theorem grant_answers (ledger : Ledger σ) (signal : hall.docket.signalled number = true)
    (queued : hall.errands[index]? = some (.queued number)) (free : number ∉ hall.occupied) :
    ∃ answer, (hall.act ledger (.grant index)).1 = .answered index number answer := by
  simp only [Hall.act, grant, queued, if_neg free, enter, Docket.pending?_of_signalled signal]
  exact ⟨_, rfl⟩

/-- Nobody who wants the receipt of a cancelled submission is kept waiting by someone else. -/
theorem answered_within_two (ledger : Ledger σ) (orderly : hall.Orderly)
    (signal : hall.docket.signalled number = true)
    (queued : hall.errands[index]? = some (.queued number)) :
    ∃ acts, acts.length ≤ 2 ∧ ∃ turn ∈ (hall.run ledger acts).1, ∃ answer,
      turn.event = .answered index number answer := by
  by_cases had : number ∈ hall.occupied
  · obtain ⟨holder, act, ⟨stage, here⟩, free, kept⟩ := holder_gives_up ledger orderly signal had
    have differs : index ≠ holder := by
      rintro rfl
      cases queued.symm.trans here
    obtain ⟨⟨settled, goesOn⟩, -⟩ := orderly.act ledger act
    obtain ⟨answer, answered⟩ := grant_answers ledger (goesOn.signalled signal)
      ((kept index differs).trans queued) free
    exact ⟨[act, .grant index], Nat.le_refl 2, _, .tail _ (.head _), answer, answered⟩
  · obtain ⟨answer, answered⟩ := grant_answers ledger signal queued had
    exact ⟨[.grant index], Nat.le_succ 1, _, .head _, answer, answered⟩

/-- Over every run, and for every case that is cancelled, through `cancelSubmission` or
`releaseSubmission`. If it is open then, whoever gets it afterwards, while nothing has settled it in
between, is told that it was cancelled; the ledger is not asked, nothing is registered, and that is the
outcome of the case for good. Whoever wants its receipt can be answered in two acts. If the case has its
outcome already, everything goes on as without the signal. -/
theorem cancelled_submissions_never_finalize (ledger : Ledger σ) (endpoint : String)
    (tracker : Tracker) (capacity : Nat) (state : σ) (acts : List (Act σ)) (number : Nat) :
    let ran := (opened endpoint tracker capacity state).run ledger acts
    (∀ earlier signal between granting later index,
      ran.1 = earlier ++ signal :: (between ++ granting :: later) →
      signal.Signals number → signal.before.docket.state number = .ok .sent →
      (∀ turn ∈ between, ¬ turn.Settles number) → granting.Grants index number →
      granting.Voids index number ∧ ∀ turn ∈ later, turn.Recalls number) ∧
    (∀ earlier signal later index, ran.1 = earlier ++ signal :: later →
      signal.Signals number → signal.before.docket.state number = .ok .sent →
      ran.2.errands[index]? = some (.queued number) →
      ∃ more, more.length ≤ 2 ∧ ∃ turn ∈ (ran.2.run ledger more).1, ∃ answer,
        turn.event = .answered index number answer) ∧
    ∀ signal ∈ ran.1, ∀ outcome, signal.Signals number →
      signal.before.docket.state number = .ok outcome → outcome ≠ .sent →
      ∀ more, (signal.after.run ledger more).1.map (·.event) =
          (signal.unsignalled.run ledger more).1.map (·.event) ∧
        (signal.after.run ledger more).2 = (signal.unsignalled.run ledger more).2.signal number := by
  intro ran
  have happened : Turns ledger _ ran.1 ran.2 :=
    Schedule.run_turns (act ledger) (opened endpoint tracker capacity state) acts
  have orderly := opened_orderly endpoint tracker capacity state
  refine ⟨?_, ?_, ?_⟩
  · intro earlier signal between granting later index shape signals sent unsettled grants
    rw [shape] at happened
    obtain ⟨-, acted, orderlyAfter, goesOn⟩ := happened.reach orderly
    obtain ⟨sentAfter, heard⟩ := signals.heard acted sent
    obtain ⟨meanwhile, actedThere, orderlyThen, rest⟩ := goesOn.reach orderlyAfter
    have voids := grants.voids actedThere (meanwhile.sent sentAfter unsettled)
      (meanwhile.signalled orderlyAfter heard)
    exact ⟨voids, rest.recalls orderlyThen voids.outcome⟩
  · intro earlier signal later index shape signals sent queued
    rw [shape] at happened
    obtain ⟨-, acted, orderlyAfter, goesOn⟩ := happened.reach orderly
    have heard := goesOn.signalled orderlyAfter (signals.heard acted sent).2
    exact answered_within_two ledger (goesOn.orderly orderlyAfter) heard queued
  · intro signal taken outcome signals stands unsent more
    obtain ⟨earlier, later, shape⟩ := List.append_of_mem taken
    rw [shape] at happened
    obtain ⟨-, acted, orderlyAfter, -⟩ := happened.reach orderly
    rw [signals.after_eq acted] at orderlyAfter ⊢
    exact signal_run orderlyAfter.of_signal stands unsent ledger more

/-- A signer is registered, and someone submits. -/
def submitting (signer : Signer) : List (Act Chain) :=
  [.request (.registry (.register (.signer signer))), .submit 0 [0] ⟨0, none, none⟩]

/-- The submission is filed; someone calls for its receipt, it is cancelled, and the caller gets it. -/
def cancelling : List (Act Chain) :=
  [.advance 0, .call 1, .request (.cancelSubmission 1), .grant 1]

def atWork (signer : Signer) : Hall Chain :=
  ⟨Session.ready signer, [.submitting (.ready (Tracker.usual.submit signer [0] ⟨0, none, none⟩).run)]⟩

def accepted (signer : Signer) (submission : Submission) (world : World Chain) : Hall Chain :=
  ⟨(Session.ready signer).onWorld world, [.submitting (.ready (.done (.ok submission)))]⟩

theorem run_submitting (signer : Signer) :
    ((opened Session.inProcess Tracker.usual 4 (.withLag 2)).run Chain.ledger (submitting signer)).2 =
      atWork signer := rfl

theorem run_atWork {signer : Signer} {submission : Submission} {exchanges : List Exchange}
    {after : World Chain}
    (takes : (Tracker.usual.submit signer [0] ⟨0, none, none⟩).Takes exchanges (.ok submission))
    (serves : World.Serves Chain.ledger ⟨.withLag 2, .empty, .empty⟩ exchanges after)
    (length : exchanges.length = 6) :
    ((atWork signer).run Chain.ledger (List.replicate 12 (.advance 0))).2 =
      accepted signer submission after := by
  have ran := @run_takes _ _ (atWork signer) 0 _ _ _ _ takes serves rfl
  rw [length] at ran
  exact ran

theorem run_cancelling (signer : Signer) (submission : Submission) (world : World Chain) :
    ∃ earlier signal granting,
      ((accepted signer submission world).run Chain.ledger cancelling).1 = earlier ++ [signal, granting] ∧
      signal.Signals 0 ∧ signal.before.docket.state 0 = .ok .sent ∧ granting.Grants 1 0 :=
  ⟨[_, _], ⟨_, .request (.cancelSubmission 1), .quiet, _⟩, ⟨_, .grant 1, _, _⟩, rfl, .cancel rfl, rfl,
    ⟨rfl, rfl, List.not_mem_nil⟩⟩

open Tracker in
/-- The caller is told that the submission was cancelled, which the ledger had taken. -/
theorem cancelled_before_granted :
    let acts := submitting default ++ (List.replicate 12 (.advance 0) ++ cancelling)
    let ran := (opened Session.inProcess usual 4 (.withLag 2)).run Chain.ledger acts
    ∃ earlier signal granting, ran.1 = earlier ++ signal :: ([] ++ granting :: []) ∧
      signal.Signals 0 ∧ signal.before.docket.state 0 = .ok .sent ∧ granting.Grants 1 0 ∧
      granting.Voids 1 0 := by
  -- The address is not to be computed from here on.
  have signed := first_letter_signed
  generalize (default : Signer) = signer at signed ⊢
  obtain ⟨signed, done⟩ := signed
  obtain ⟨chain, takes, served⟩ := errand_taken done .empty rfl .empty
  have ran : ((atWork signer).run Chain.ledger (List.replicate 12 (.advance 0))).2 =
      accepted signer (usual.submissionOf (errand signer 0) 1 signed) _ := run_atWork takes served rfl
  obtain ⟨before, signal, granting, shape, signals, sent, grants⟩ := run_cancelling signer _ _
  rw [← ran] at shape
  have whole : ((opened Session.inProcess usual 4 (.withLag 2)).run Chain.ledger
      (submitting signer ++ (List.replicate 12 (.advance 0) ++ cancelling))).1 =
      (((opened Session.inProcess usual 4 (.withLag 2)).run Chain.ledger (submitting signer)).1 ++
        (((atWork signer).run Chain.ledger (List.replicate 12 (.advance 0))).1 ++ before)) ++
        signal :: ([] ++ granting :: []) := by
    rw [run_append, run_submitting, run_append, shape]
    simp only [List.append_assoc, List.nil_append]
  have answered := cancelled_submissions_never_finalize Chain.ledger Session.inProcess usual 4
    (.withLag 2) (submitting signer ++ (List.replicate 12 (.advance 0) ++ cancelling)) 0
  have voids := (answered.1 _ signal [] granting [] 1 whole signals sent
    (fun _ listed => absurd listed List.not_mem_nil) grants).1
  exact ⟨_, signal, granting, whole, signals, sent, grants, voids⟩

end Hall

end Notary
