import Notary.Proofs.Program.Deadline
import Notary.Proofs.Session.Pending
import Notary.Proofs.Session.Run

namespace Notary

/-!
Sessions that many callers use at the same time. Each caller has an errand under way, which moves on by
acts; the acts of all callers follow each other in a schedule. What errands and acts there are differs
from one account of a session to another, and the rest is the same.
-/

namespace Schedule

variable {ς α ω : Type}

/-- An act and its event, with what was there before and after them. -/
structure Turn (ς α ω : Type) where
  before : ς
  act : α
  event : ω
  after : ς

/-- Goes through acts one after the other: the turns, and what they leave. -/
def run (move : ς → α → ω × ς) (state : ς) : List α → List (Turn ς α ω) × ς
  | [] => ([], state)
  | act :: rest =>
      let (event, after) := move state act
      let (turns, last) := run move after rest
      (⟨state, act, event, after⟩ :: turns, last)

theorem run_append (move : ς → α → ω × ς) (state : ς) (first second : List α) :
    run move state (first ++ second) =
      ((run move state first).1 ++ (run move (run move state first).2 second).1,
        (run move (run move state first).2 second).2) := by
  induction first generalizing state with
  | nil => rfl
  | cons act rest ih => simp only [List.cons_append, run, ih]

/-- Turns that follow each other. -/
inductive Turns (move : ς → α → ω × ς) : ς → List (Turn ς α ω) → ς → Prop where
  | nil (state : ς) : Turns move state [] state
  | cons (turn : Turn ς α ω) {rest : List (Turn ς α ω)} {last : ς}
      (acted : move turn.before turn.act = (turn.event, turn.after))
      (goesOn : Turns move turn.after rest last) : Turns move turn.before (turn :: rest) last

variable {move : ς → α → ω × ς} {state after last : ς} {turns : List (Turn ς α ω)} {event : ω}

theorem run_turns (move : ς → α → ω × ς) (state : ς) (acts : List α) :
    Turns move state (run move state acts).1 (run move state acts).2 := by
  induction acts generalizing state with
  | nil => exact .nil state
  | cons act rest ih => exact .cons ⟨state, act, _, _⟩ rfl (ih _)

theorem Turns.split {early late : List (Turn ς α ω)}
    (happened : Turns move state (early ++ late) last) :
    ∃ middle, Turns move state early middle ∧ Turns move middle late last := by
  induction early generalizing state with
  | nil => exact ⟨state, .nil state, happened⟩
  | cons turn rest ih =>
      cases happened with
      | cons _ acted goesOn =>
          obtain ⟨middle, first, second⟩ := ih goesOn
          exact ⟨middle, .cons turn acted first, second⟩

theorem Turns.reach {early late : List (Turn ς α ω)} {turn : Turn ς α ω}
    (happened : Turns move state (early ++ turn :: late) last) :
    Turns move state early turn.before ∧
      move turn.before turn.act = (turn.event, turn.after) ∧ Turns move turn.after late last := by
  obtain ⟨middle, before, now⟩ := happened.split
  cases now with
  | cons _ acted goesOn => exact ⟨before, acted, goesOn⟩

/-- Acts that lead from here to there, the last of them with an event. -/
def Leads (move : ς → α → ω × ς) (state : ς) (event : ω) (after : ς) : Prop :=
  ∃ acts earlier before act, run move state acts = (earlier ++ [⟨before, act, event, after⟩], after)

theorem Leads.single (act : α) (acted : move state act = (event, after)) :
    Leads move state event after :=
  ⟨[act], [], state, act, by simp [run, acted]⟩

theorem Leads.act (act : α) (rest : Leads move (move state act).2 event after) :
    Leads move state event after := by
  obtain ⟨acts, earlier, before, last, ran⟩ := rest
  let turn : Turn ς α ω := ⟨state, act, (move state act).1, (move state act).2⟩
  exact ⟨act :: acts, turn :: earlier, before, last, by simp [run, ran, turn]⟩

end Schedule

/-- A session with the errands that its callers have under way. -/
structure Desk (σ ε : Type) where
  session : Session σ
  errands : List ε

namespace Desk

variable {σ ε : Type}

def docket (desk : Desk σ ε) : Docket σ := desk.session.docket

def tracker (desk : Desk σ ε) : Tracker := desk.docket.tracker

def withDocket (desk : Desk σ ε) (docket : Docket σ) : Desk σ ε :=
  { desk with session := { desk.session with docket } }

def add (desk : Desk σ ε) (errand : ε) : Desk σ ε :=
  { desk with errands := desk.errands ++ [errand] }

def put (desk : Desk σ ε) (index : Nat) (errand : ε) : Desk σ ε :=
  { desk with errands := desk.errands.set index errand }

/-- Files a submission, and registers its case as long as there is room. The number of the case tells
what the errand has to do next. -/
def file (desk : Desk σ ε) (index : Nat) (submission : Submission) (next : Nat → ε) : Desk σ ε :=
  let (number, docket) := desk.docket.file submission
  let (_, session) := (desk.withDocket docket).session.register (.submission number)
  { desk with session }.put index (next number)

/-- Settles a case by the result of a wait for it, with which the errand is over. -/
def settle (desk : Desk σ ε) (index number : Nat) (result : Except Fault FinalityRecord) (ending : ε) :
    Except Fault Handle × Desk σ ε :=
  let (answer, docket) := (desk.docket.noted result).settle number result
  (answer, (desk.withDocket docket).put index ending)

/-- Answers a request that takes no call. The others are errands, or do not come from a caller. -/
def request (ledger : Ledger σ) (desk : Desk σ ε) (request : Session.Request σ) : Desk σ ε :=
  match request with
  | .submitData _ _ _ | .submitWithOptions _ _ _ | .transactionReceipt _ _ | .ledger _ => desk
  | request => { desk with session := (desk.session.answer ledger request).2 }

end Desk

/-! Requests that take no call, all alike in what they leave. -/

def Session.Request.Quick {σ : Type} : Session.Request σ → Prop
  | .submitData _ _ _ | .submitWithOptions _ _ _ | .transactionReceipt _ _ | .ledger _ => False
  | _ => True

theorem Session.answer_quick {σ : Type} (ledger : Ledger σ) {session : Session σ}
    {request : Session.Request σ} (quick : request.Quick) :
    (session.answer ledger request).2.docket.tracker = session.docket.tracker ∧
      (session.answer ledger request).2.docket.world = session.docket.world ∧
      ((session.answer ledger request).2.docket.cases = session.docket.cases ∨
        ∃ number, (session.answer ledger request).2.docket.cases =
          (session.docket.cancel number).cases) := by
  cases request with
  | initializeSigner seed =>
      simp only [answer, initializeSigner]
      cases Seed.derive seed <;> exact ⟨rfl, rfl, .inl rfl⟩
  | cancelSubmission word =>
      simp only [answer, cancelSubmission]
      cases session.registry.submission (.ofWord word) with
      | error e => exact ⟨rfl, rfl, .inl rfl⟩
      | ok number => exact ⟨rfl, rfl, .inr ⟨number, rfl⟩⟩
  | receiptNew word =>
      simp only [answer, receiptNew]
      cases session.registry.receipt (.ofWord word) <;> exact ⟨rfl, rfl, .inl rfl⟩
  | releaseSubmission word =>
      simp only [answer, releaseSubmission]
      cases released : session.releaseKind (.ofWord word) .submission with
      | mk result left =>
          obtain ⟨-, rfl⟩ := Prod.mk.inj released
          rcases result with fault | signer | number | record
          · exact ⟨rfl, rfl, .inl rfl⟩
          · exact ⟨rfl, rfl, .inl rfl⟩
          · exact ⟨rfl, rfl, .inr ⟨number, rfl⟩⟩
          · exact ⟨rfl, rfl, .inl rfl⟩
  | submitData | submitWithOptions | transactionReceipt | ledger => exact quick.elim
  | signMessage | submission | receipt | receiptFree | record | releaseSigner | releaseReceipt
  | registry => exact ⟨rfl, rfl, .inl rfl⟩

/-- A request is answered without a call, or nothing comes of it. -/
theorem Desk.request_cases {σ ε : Type} (request : Session.Request σ) :
    (request.Quick ∧ ∀ (ledger : Ledger σ) (desk : Desk σ ε), desk.request ledger request =
        ⟨(desk.session.answer ledger request).2, desk.errands⟩) ∨
      ∀ (ledger : Ledger σ) (desk : Desk σ ε), desk.request ledger request = desk := by
  cases request with
  | submitData | submitWithOptions | transactionReceipt | ledger => exact .inr fun _ _ => rfl
  | _ => exact .inl ⟨trivial, fun _ _ => rfl⟩

/-! A wait that is alone. -/

/-- What a wait comes to that ended by itself or was broken off. -/
def Tracker.concluded (tracker : Tracker) :
    Ended (Except Fault FinalityRecord) → Except Fault FinalityRecord
  | .finished result => result
  | .timedOut => .error (.failure tracker.lateError)
  | .cancelled => .error (.failure .cancelled)

theorem Tracker.wait_eq {σ : Type} (ledger : Ledger σ) (tracker : Tracker) (submission : Submission)
    (cancelAt : Option Nat) (world : World σ) :
    tracker.wait ledger submission cancelAt world =
      let ran := Program.run ledger ⟨some tracker.deadline, cancelAt⟩
        (tracker.poll submission tracker.rounds tracker.freshBackoff).run 0 world
      (tracker.concluded ran.1, ran.2) := by
  simp only [wait]
  rcases Program.run ledger ⟨some tracker.deadline, cancelAt⟩
    (tracker.poll submission tracker.rounds tracker.freshBackoff).run 0 world with ⟨ended, left⟩
  cases ended <;> rfl

/-- The session with the world as a program leaves it. -/
def Session.onWorld {σ : Type} (session : Session σ) (world : World σ) : Session σ :=
  { session with docket := { session.docket with world } }

end Notary
