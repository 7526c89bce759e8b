import Notary.Proofs.Session.Settling
import Notary.Session

namespace Notary.Session

/-!
The life of a session: requests in any order, among them those that go to its registry directly, and
changes of the ledger from outside in between.
-/

variable {σ : Type}

inductive Request (σ : Type) where
  | initializeSigner (seed : String)
  | signMessage (word : Int32) (message : Bytes)
  | submitData (word : Int32) (payload : Bytes) (appId : Int32)
  | submitWithOptions (word : Int32) (payload : Bytes) (options : SubmitOptions)
  | transactionReceipt (word : Int32) (cancelAt : Option Nat)
  | cancelSubmission (word : Int32)
  | submission (word : Int32)
  | receipt (word : Int32)
  | receiptNew (word : Int32)
  | receiptFree (address : Nat)
  | record (address : Nat)
  | releaseSigner (word : Int32)
  | releaseSubmission (word : Int32)
  | releaseReceipt (word : Int32)
  | registry (request : Registry.Request)
  /-- The ledger changes by itself. -/
  | ledger (change : σ → σ)

@[reducible] def Request.Reply : Request σ → Type
  | initializeSigner _ => Except Fault Handle
  | signMessage _ _ => Except Fault Bytes
  | submitData _ _ _ => Except Fault Handle
  | submitWithOptions _ _ _ => Except Fault Handle
  | transactionReceipt _ _ => Except Fault Handle
  | cancelSubmission _ => Except Fault Unit
  | submission _ => Except Fault Submission.Case
  | receipt _ => Except Fault FinalityRecord
  | receiptNew _ => Except Fault Nat
  | receiptFree _ => Except Fault Unit
  | record _ => Except Fault BoundaryRecord
  | releaseSigner _ => Except Fault Unit
  | releaseSubmission _ => Except Fault Unit
  | releaseReceipt _ => Except Fault Unit
  | registry request => request.Reply
  | ledger _ => Unit

def answer (ledger : Ledger σ) (session : Session σ) :
    (request : Request σ) → request.Reply × Session σ
  | .initializeSigner seed => session.initializeSigner seed
  | .signMessage word message => (session.signMessage (.ofWord word) message, session)
  | .submitData word payload appId =>
      session.submitData ledger (.ofWord word) payload appId.toInt
  | .submitWithOptions word payload options =>
      session.submitWithOptions ledger (.ofWord word) payload options
  | .transactionReceipt word cancelAt =>
      session.transactionReceipt ledger (.ofWord word) cancelAt
  | .cancelSubmission word => session.cancelSubmission (.ofWord word)
  | .submission word => (session.findCase (.ofWord word), session)
  | .receipt word => (session.receipt (.ofWord word), session)
  | .receiptNew word => session.receiptNew (.ofWord word)
  | .receiptFree address => session.receiptFree address
  | .record address => (session.record address, session)
  | .releaseSigner word => session.releaseSigner (.ofWord word)
  | .releaseSubmission word => session.releaseSubmission (.ofWord word)
  | .releaseReceipt word => session.releaseReceipt (.ofWord word)
  | .registry request =>
      let (reply, registry) := session.registry.answer request
      (reply, session.withRegistry registry)
  | .ledger change => ((), session.withState (change session.state))

/-- A request as it was answered, with the session before and after it. -/
structure Turn (σ : Type) where
  before : Session σ
  request : Request σ
  reply : request.Reply
  after : Session σ

namespace Turn

/-- The handle that a request took out of use. -/
def released? : Turn σ → Option Handle
  | ⟨_, .releaseSigner word, .ok _, _⟩ => some (.ofWord word)
  | ⟨_, .releaseSubmission word, .ok _, _⟩ => some (.ofWord word)
  | ⟨_, .releaseReceipt word, .ok _, _⟩ => some (.ofWord word)
  | ⟨_, .registry request, reply, _⟩ => Registry.Event.released? ⟨request, reply⟩
  | _ => none

/-- The request is answered alike over every ledger, and leaves the session as it is. -/
def Silent (turn : Turn σ) : Prop :=
  turn.after = turn.before ∧
    ∀ ledger : Ledger σ, turn.before.answer ledger turn.request = (turn.reply, turn.before)

end Turn

/-- Answers requests one after the other: the turns, and the session they leave. -/
def run (ledger : Ledger σ) (session : Session σ) : List (Request σ) → List (Turn σ) × Session σ
  | [] => ([], session)
  | request :: rest =>
      let (reply, after) := session.answer ledger request
      let (turns, last) := run ledger after rest
      (⟨session, request, reply, after⟩ :: turns, last)

def opened (endpoint : String) (tracker : Tracker) (capacity : Nat) (state : σ) : Session σ :=
  ⟨endpoint, .opened tracker (.withCapacity capacity) state, .empty⟩

/-- A session begins with a tracker of its settings and nothing registered. -/
theorem assemble_ok {ledger : Ledger σ} {endpoint : String} {config : Config} {state left : σ}
    {session : Session σ}
    (made : assemble ledger endpoint config state = (.ok session, left)) :
    ∃ chainId tracker, Tracker.ofConfig chainId config = .ok tracker ∧
      session = opened endpoint tracker Handle.slots left := by
  simp only [assemble] at made
  split at made
  · cases made
  · next chainId state found =>
      split at made
      · cases made
      · cases made
      · next tracker checked settled =>
          cases made
          exact ⟨chainId, tracker, settled, rfl⟩

/-! What a request does to the registry and to the cases. -/

/-- What can become of the cases, and the handle that was given out meanwhile. -/
inductive Rewrites (cases : Array Submission.Case) :
    Option Handle → Array Submission.Case → Prop where
  | kept (issued : Option Handle) : Rewrites cases issued cases
  | filed (issued : Option Handle) (submission : Submission) :
      Rewrites cases issued (cases.push (Submission.opened submission))
  | cancelled (issued : Option Handle) (number : Nat) :
      Rewrites cases issued (cases.modify number fun found => { found with cancelled := true })
  | failed (issued : Option Handle) (number : Nat) (found : Submission.Case) (e : Error)
      (stored : cases[number]? = some found) (sent : found.state = .sent)
      (terminal : Submission.isTerminal e = true) :
      Rewrites cases issued (cases.modify number fun found => { found with state := .failed e })
  | finalized (receipt : Handle) (number : Nat) (found : Submission.Case)
      (stored : cases[number]? = some found) (sent : found.state = .sent) :
      Rewrites cases (some receipt)
        (cases.modify number fun found => { found with state := .finalized receipt })

/-- A request leaves the registry as it is, or acts on it as one of the registry's own requests does. -/
inductive Shifts (before after : Session σ) : Option Handle → Prop where
  | still (same : after.registry = before.registry)
      (rewrites : Rewrites before.docket.cases none after.docket.cases) : Shifts before after none
  | moved (event : Registry.Event) (moves : before.registry.Moves event after.registry)
      (rewrites : Rewrites before.docket.cases event.issued? after.docket.cases) :
      Shifts before after event.released?

variable {session : Session σ}

/-- What is asked of the registry moves it, whatever else becomes of the cases. -/
theorem Shifts.ofRequest (wellFormed : session.registry.arena.WellFormed)
    (request : Registry.Request) {after : Session σ}
    (moved : after.registry = (session.registry.answer request).2)
    (rewrites : Rewrites session.docket.cases
      (Registry.Event.issued? ⟨request, (session.registry.answer request).1⟩) after.docket.cases) :
    Shifts session after
      (Registry.Event.released? ⟨request, (session.registry.answer request).1⟩) := by
  refine .moved _ ?_ rewrites
  rw [moved]
  exact Registry.answer_moves wellFormed request

theorem register_shifts (wellFormed : session.registry.arena.WellFormed) (prepared : Session σ)
    (same : prepared.registry = session.registry)
    (rewrites : ∀ issued, Rewrites session.docket.cases issued prepared.docket.cases)
    (object : Object) : Shifts session (prepared.register object).2 none := by
  have moved : (prepared.register object).2.registry =
      (session.registry.answer (.register object)).2 := by
    rw [← same]
    rfl
  exact Shifts.ofRequest wellFormed (.register object) moved (rewrites _)

/-- A release by kind, whatever becomes of the case that was released. -/
theorem releaseKind_shifts (wellFormed : session.registry.arena.WellFormed) {word : Int32}
    {kind : Kind} {result : Except Fault Object} {left after : Session σ}
    (answered : session.releaseKind (.ofWord word) kind = (result, left))
    (same : after.registry = left.registry)
    (rewrites : Rewrites left.docket.cases none after.docket.cases) :
    Shifts session after (result.toOption.map fun _ => .ofWord word) := by
  unfold Session.releaseKind at answered
  cases released : session.registry.releaseKind (.ofWord word) kind with
  | mk outcome registry =>
      simp only [released, Prod.mk.injEq] at answered
      obtain ⟨rfl, rfl⟩ := answered
      have moved : after.registry = (session.registry.answer (.releaseKind word kind)).2 := by
        rw [same, Registry.answer, released]
        rfl
      have shifts := Shifts.ofRequest wellFormed (.releaseKind word kind) moved rewrites
      simp only [Registry.answer, released] at shifts
      cases outcome <;> exact shifts

theorem submitWithOptions_shifts (wellFormed : session.registry.arena.WellFormed)
    (ledger : Ledger σ) (handle : Handle) (payload : Bytes) (options : SubmitOptions) :
    Shifts session (session.submitWithOptions ledger handle payload options).2 none := by
  unfold submitWithOptions
  cases session.registry.signer handle with
  | error e => exact .still rfl (.kept none)
  | ok signer =>
      have files := session.docket.submit_files ledger signer payload options
      cases submitted : session.docket.submit ledger signer payload options with
      | mk result rest =>
          obtain ⟨ms, docket⟩ := rest
          simp only [submitted] at files ⊢
          obtain ⟨same, filed⟩ := files
          have rewrites : ∀ issued, Rewrites session.docket.cases issued docket.cases := by
            intro issued
            obtain unchanged | ⟨submission, pushed⟩ := filed
            · exact unchanged ▸ .kept issued
            · exact pushed ▸ .filed issued submission
          cases result with
          | error fault => exact .still same (rewrites none)
          | ok number =>
              exact register_shifts wellFormed { session with docket } same rewrites (.submission number)

theorem transactionReceipt_shifts (wellFormed : session.registry.arena.WellFormed)
    (ledger : Ledger σ) (handle : Handle) (cancelAt : Option Nat) :
    Shifts session (session.transactionReceipt ledger handle cancelAt).2 none := by
  unfold transactionReceipt
  cases session.registry.submission handle with
  | error e => exact .still rfl (.kept none)
  | ok number =>
      have resolution := session.docket.resolve_resolution ledger number cancelAt
      cases resolved : session.docket.resolve ledger number cancelAt with
      | mk result rest =>
          obtain ⟨ms, docket⟩ := rest
          simp only [resolved] at resolution ⊢
          cases resolution with
          | unknown | settled => exact .still rfl (.kept none)
          | published found world record receipt registry stored sent registered =>
              exact .moved ⟨.register (.receipt record), .ok receipt⟩
                (.registered (Registry.register_ok wellFormed registered))
                (.finalized receipt number found stored sent)
          | failed found world e stored sent terminal =>
              exact .still rfl (.failed none number found e stored sent terminal)
          | postponed => exact .still rfl (.kept none)

theorem answer_shifts (wellFormed : session.registry.arena.WellFormed) (ledger : Ledger σ)
    (request : Request σ) :
    Shifts session (session.answer ledger request).2
      (Turn.released? ⟨session, request, (session.answer ledger request).1,
        (session.answer ledger request).2⟩) := by
  cases request with
  | initializeSigner seed =>
      simp only [answer, initializeSigner]
      cases Seed.derive seed with
      | error e => exact .still rfl (.kept none)
      | ok signer => exact register_shifts wellFormed session rfl .kept (.signer signer)
  | submitData word payload appId =>
      simp only [answer, submitData]
      split
      · exact .still rfl (.kept none)
      · exact submitWithOptions_shifts wellFormed ledger _ payload _
  | submitWithOptions word payload options =>
      exact submitWithOptions_shifts wellFormed ledger _ payload options
  | transactionReceipt word cancelAt =>
      exact transactionReceipt_shifts wellFormed ledger _ cancelAt
  | cancelSubmission word =>
      simp only [answer, cancelSubmission]
      cases session.registry.submission (.ofWord word) with
      | error e => exact .still rfl (.kept none)
      | ok number => exact .still rfl (.cancelled none number)
  | receiptNew word =>
      simp only [answer, receiptNew]
      cases session.registry.receipt (.ofWord word) with
      | error e => exact .still rfl (.kept none)
      | ok record => exact .still rfl (.kept none)
  | receiptFree address => exact .still rfl (.kept none)
  | releaseSigner word =>
      cases answered : session.releaseKind (.ofWord word) .signer with
      | mk result left =>
          simp only [answer, releaseSigner, answered]
          have shifts := releaseKind_shifts wellFormed answered rfl (.kept none)
          cases result <;> exact shifts
  | releaseSubmission word =>
      cases answered : session.releaseKind (.ofWord word) .submission with
      | mk result left =>
          simp only [answer, releaseSubmission, answered]
          cases result with
          | error fault => exact releaseKind_shifts wellFormed answered rfl (.kept none)
          | ok object =>
              cases object with
              | submission number =>
                  exact releaseKind_shifts wellFormed answered rfl (.cancelled none number)
              | signer | receipt => exact releaseKind_shifts wellFormed answered rfl (.kept none)
  | releaseReceipt word =>
      cases answered : session.releaseKind (.ofWord word) .receipt with
      | mk result left =>
          simp only [answer, releaseReceipt, answered]
          have shifts := releaseKind_shifts wellFormed answered rfl (.kept none)
          cases result <;> exact shifts
  | registry request => exact Shifts.ofRequest wellFormed request rfl (.kept _)
  | signMessage word message | submission word | receipt word | record address | ledger change =>
      exact .still rfl (.kept none)

end Notary.Session
