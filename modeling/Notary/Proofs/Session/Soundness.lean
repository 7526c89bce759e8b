import Notary.Proofs.Session.Run

namespace Notary.Session

/-!
What every session keeps. Receipts of settled cases were given out by the registry, failures of
settled cases are terminal, and a settled case stays as it is.
-/

variable {σ : Type} {cases after : Array Submission.Case} {issued : Option Handle} {number : Nat}
  {found later : Submission.Case}

/-- A case goes on with its submission, and once it is settled with its state. -/
theorem Rewrites.stays (rewrites : Rewrites cases issued after) (stored : cases[number]? = some found) :
    ∃ later, after[number]? = some later ∧ later.submission = found.submission ∧
      (found.state ≠ .sent → later.state = found.state) := by
  cases rewrites with
  | kept => exact ⟨found, stored, rfl, fun _ => rfl⟩
  | filed issued submission =>
      have inside := (Array.getElem?_eq_some_iff.mp stored).1
      refine ⟨found, ?_, rfl, fun _ => rfl⟩
      rw [Array.getElem?_push, if_neg (by omega), stored]
  | cancelled issued cancelled =>
      rw [Array.getElem?_modify, stored]
      split <;> exact ⟨_, rfl, rfl, fun _ => rfl⟩
  | failed issued settled open_ e here sent terminal =>
      rw [Array.getElem?_modify, stored]
      split
      · next same =>
          subst same
          cases stored.symm.trans here
          exact ⟨_, rfl, rfl, fun unsent => absurd sent unsent⟩
      · exact ⟨_, rfl, rfl, fun _ => rfl⟩
  | finalized receipt settled open_ here sent =>
      rw [Array.getElem?_modify, stored]
      split
      · next same =>
          subst same
          cases stored.symm.trans here
          exact ⟨_, rfl, rfl, fun unsent => absurd sent unsent⟩
      · exact ⟨_, rfl, rfl, fun _ => rfl⟩

/-- Where the state of a case comes from. -/
inductive Origin (cases : Array Submission.Case) (issued : Option Handle) (number : Nat) :
    Submission.State → Prop where
  | before (found : Submission.Case) (stored : cases[number]? = some found) :
      Origin cases issued number found.state
  | sent : Origin cases issued number .sent
  | failed (e : Error) (terminal : Submission.isTerminal e = true) :
      Origin cases issued number (.failed e)
  | finalized (receipt : Handle) (given : issued = some receipt) :
      Origin cases issued number (.finalized receipt)

theorem Rewrites.origin (rewrites : Rewrites cases issued after) (stored : after[number]? = some later) :
    Origin cases issued number later.state := by
  cases rewrites with
  | kept => exact .before later stored
  | filed issued submission =>
      rw [Array.getElem?_push] at stored
      split at stored
      · cases stored
        exact .sent
      · exact .before later stored
  | cancelled issued cancelled =>
      rw [Array.getElem?_modify] at stored
      split at stored
      · obtain ⟨found, here, rfl⟩ := Option.map_eq_some_iff.mp stored
        exact .before found here
      · exact .before later stored
  | failed issued settled found e here sent terminal =>
      rw [Array.getElem?_modify] at stored
      split at stored
      · obtain ⟨found, here, rfl⟩ := Option.map_eq_some_iff.mp stored
        exact .failed e terminal
      · exact .before later stored
  | finalized receipt settled found here sent =>
      rw [Array.getElem?_modify] at stored
      split at stored
      · obtain ⟨found, here, rfl⟩ := Option.map_eq_some_iff.mp stored
        exact .finalized receipt rfl
      · exact .before later stored

/-- The registry and the errors bear out the state of a case. -/
def Backed (arena : Arena Object) : Submission.State → Prop
  | .sent => True
  | .finalized receipt => receipt.IsWord ∧ arena.Spent receipt
  | .failed e => Submission.isTerminal e = true

theorem Backed.mono {arena grown : Arena Object} {state : Submission.State}
    (backed : Backed arena state) (spent : ∀ handle, arena.Spent handle → grown.Spent handle) :
    Backed grown state := by
  cases state with
  | sent => trivial
  | finalized receipt => exact ⟨backed.1, spent receipt backed.2⟩
  | failed e => exact backed

theorem Origin.backed {arena : Arena Object} {state : Submission.State}
    (origin : Origin cases issued number state)
    (old : ∀ found : Submission.Case, cases[number]? = some found → Backed arena found.state)
    (given : ∀ handle, issued = some handle → handle.IsWord ∧ arena.Spent handle) :
    Backed arena state := by
  cases origin with
  | before found stored => exact old found stored
  | sent => trivial
  | failed e terminal => exact terminal
  | finalized receipt same => exact given receipt same

structure Sound (session : Session σ) : Prop where
  wellFormed : session.registry.arena.WellFormed
  backed : ∀ (number : Nat) (found : Submission.Case), session.docket.cases[number]? = some found →
    Backed session.registry.arena found.state

theorem opened_sound (endpoint : String) (tracker : Tracker) (capacity : Nat) (state : σ) :
    (opened endpoint tracker capacity state).Sound where
  wellFormed := Arena.withCapacity_wellFormed capacity
  backed _ _ := nofun

variable {session next : Session σ} {released : Option Handle} {handle : Handle}

namespace Shifts

theorem wellFormed (shifts : Shifts session next released)
    (wellFormed : session.registry.arena.WellFormed) : next.registry.arena.WellFormed := by
  cases shifts with
  | still same => exact same ▸ wellFormed
  | moved event moves => exact moves.wellFormed wellFormed

theorem spent_mono (shifts : Shifts session next released)
    (wellFormed : session.registry.arena.WellFormed) (spent : session.registry.arena.Spent handle) :
    next.registry.arena.Spent handle := by
  cases shifts with
  | still same => exact same ▸ spent
  | moved event moves => exact moves.spent_mono wellFormed spent

theorem rewrites (shifts : Shifts session next released)
    (wellFormed : session.registry.arena.WellFormed) :
    ∃ issued, Rewrites session.docket.cases issued next.docket.cases ∧
      ∀ handle, issued = some handle → handle.IsWord ∧ next.registry.arena.Spent handle := by
  cases shifts with
  | still same rewrites => exact ⟨none, rewrites, fun _ => nofun⟩
  | moved event moves rewrites => exact ⟨_, rewrites, fun _ => moves.issued wellFormed⟩

theorem get?_released (shifts : Shifts session next released)
    (wellFormed : session.registry.arena.WellFormed) (gone : released = some handle) :
    next.registry.arena.get? handle = none := by
  cases shifts with
  | still => cases gone
  | moved event moves => exact moves.get?_released wellFormed gone

theorem get?_kept (shifts : Shifts session next released)
    (wellFormed : session.registry.arena.WellFormed) (word : handle.IsWord)
    (spent : session.registry.arena.Spent handle) (kept : released ≠ some handle) :
    next.registry.arena.get? handle = session.registry.arena.get? handle := by
  cases shifts with
  | still same => rw [same]
  | moved event moves => exact moves.get?_kept wellFormed word spent kept

theorem sound (shifts : Shifts session next released) (sound : session.Sound) : next.Sound where
  wellFormed := shifts.wellFormed sound.wellFormed
  backed := by
    intro number later stored
    obtain ⟨issued, rewrites, given⟩ := shifts.rewrites sound.wellFormed
    refine (rewrites.origin stored).backed (fun found here => ?_) given
    exact (sound.backed number found here).mono fun _ => shifts.spent_mono sound.wellFormed

end Shifts

/-- Turns that follow each other over a ledger. -/
inductive Turns (ledger : Ledger σ) : Session σ → List (Turn σ) → Session σ → Prop where
  | nil (session : Session σ) : Turns ledger session [] session
  | cons (turn : Turn σ) {rest : List (Turn σ)} {last : Session σ}
      (answered : turn.before.answer ledger turn.request = (turn.reply, turn.after))
      (goesOn : Turns ledger turn.after rest last) : Turns ledger turn.before (turn :: rest) last

variable {ledger : Ledger σ} {turns : List (Turn σ)} {turn : Turn σ} {last : Session σ}

theorem run_turns (ledger : Ledger σ) (session : Session σ) (requests : List (Request σ)) :
    Turns ledger session (session.run ledger requests).1 (session.run ledger requests).2 := by
  induction requests generalizing session with
  | nil => exact .nil session
  | cons request rest ih => exact .cons ⟨session, request, _, _⟩ rfl (ih _)

theorem Turns.split {before after : List (Turn σ)}
    (happened : Turns ledger session (before ++ after) last) :
    ∃ middle, Turns ledger session before middle ∧ Turns ledger middle after last := by
  induction before generalizing session with
  | nil => exact ⟨session, .nil session, happened⟩
  | cons turn rest ih =>
      cases happened with
      | cons _ answered goesOn =>
          obtain ⟨middle, first, second⟩ := ih goesOn
          exact ⟨middle, .cons turn answered first, second⟩

theorem shifts_of_answered (sound : turn.before.Sound)
    (answered : turn.before.answer ledger turn.request = (turn.reply, turn.after)) :
    Shifts turn.before turn.after turn.released? := by
  obtain ⟨before, request, reply, after⟩ := turn
  have shifts := answer_shifts sound.wellFormed ledger request
  rw [answered] at shifts
  exact shifts

theorem Turns.sound (happened : Turns ledger session turns last) (sound : session.Sound) :
    last.Sound := by
  induction happened with
  | nil => exact sound
  | cons turn answered goesOn ih => exact ih ((shifts_of_answered sound answered).sound sound)

end Notary.Session
